/-!
# Journals

Operations keep a journal of what they did, which does not change what they do.

* `Record`: one line of a journal.
* `Logged`: a value with the journal of its making. Journals of steps follow each other.
-/

namespace DateTemplate

/-- How much attention a record asks for. -/
inductive Level where
  /-- Something was not as it should be. -/
  | debug
  /-- Everything is as it should be. -/
  | trace
deriving DecidableEq

/-- A line of a journal. -/
structure Record where
  level : Level
  message : String
deriving DecidableEq

/-- A value and the journal of its making. -/
structure Logged (α : Type) where
  value : α
  records : List Record

namespace Logged

instance : Monad Logged where
  pure a := ⟨a, []⟩
  bind x f := ⟨(f x.value).value, x.records ++ (f x.value).records⟩

@[simp] theorem value_pure {α : Type} (a : α) : (pure a : Logged α).value = a := rfl

@[simp] theorem records_pure {α : Type} (a : α) : (pure a : Logged α).records = [] := rfl

@[simp] theorem value_bind {α β : Type} (x : Logged α) (f : α → Logged β) :
    (x >>= f).value = (f x.value).value := rfl

@[simp] theorem records_bind {α β : Type} (x : Logged α) (f : α → Logged β) :
    (x >>= f).records = x.records ++ (f x.value).records := rfl

end Logged

end DateTemplate
