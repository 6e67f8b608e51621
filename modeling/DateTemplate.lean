import DateTemplate.Error.Outline
import DateTemplate.Field.Entry
import DateTemplate.Layout.Grammar
import DateTemplate.Pattern.Symbol
import DateTemplate.Proofs.Layout.NegativeYear
import DateTemplate.Proofs.Pattern.Quoting
import DateTemplate.Sample
import DateTemplate.Session
import DateTemplate.Template.Substitution
import DateTemplate.Text.Decimal.Read
import DateTemplate.Token.Canonical
import DateTemplate.Proofs.Pattern.Fusion
import DateTemplate.Proofs.Layout.Fixpoint
import DateTemplate.Proofs.Template.Abbreviation
import DateTemplate.Proofs.Pattern.Refusal
import DateTemplate.Proofs.Token.Canonical
import DateTemplate.Proofs.Template.Concatenation
import DateTemplate.Proofs.Calendar.UnixTime
import DateTemplate.Proofs.Calendar.WeekOfYear
import DateTemplate.Proofs.Calendar.WeekDate
import DateTemplate.Proofs.Template.Flag
import DateTemplate.Proofs.Template.Echo
import DateTemplate.Proofs.Token.Iteration
import DateTemplate.Proofs.Text.Padding
import DateTemplate.Proofs.Sample.Decoding
