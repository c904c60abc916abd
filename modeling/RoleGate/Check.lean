import RoleGate.Notice

/-!
# Checks

The outcome of a check: its answer, or the error that stopped it, and the notices given on the way.
Checks are made one after the other; the first error stops them all and keeps the notices given
before it.

## Main definitions

* `Check` — the outcomes.
* `Check.answer_bind` — the answer of two checks in a row does not depend on notices.
-/

namespace RoleGate

/-- An answer or an error, and the notices given before it. -/
structure Check (α : Type) where
  answer : Except Error α
  notices : List Notice := []

namespace Check

variable {α β : Type}

/-- A check that answers without further ado. -/
protected def pure (a : α) : Check α :=
  ⟨.ok a, []⟩

/-- One check and then, with its answer, another. -/
protected def bind (x : Check α) (f : α → Check β) : Check β :=
  match x.answer with
  | .ok a => ⟨(f a).answer, x.notices ++ (f a).notices⟩
  | .error e => ⟨.error e, x.notices⟩

instance : Monad Check where
  pure := Check.pure
  bind := Check.bind

/-- A check that gives one notice. -/
def notice (n : Notice) : Check Unit :=
  ⟨.ok (), [n]⟩

/-- A check without notices. -/
def ofExcept (x : Except Error α) : Check α :=
  ⟨x, []⟩

/-- A check that first gives the notices of keys that are read. -/
def readingKeys (keys : List Text) (x : Except Error α) : Check α :=
  ⟨x, keys.map .keyRead⟩

@[simp] theorem answer_pure (a : α) : (pure a : Check α).answer = .ok a := rfl

@[simp] theorem answer_bind (x : Check α) (f : α → Check β) :
    (x >>= f).answer = x.answer >>= fun a => (f a).answer := by
  show (Check.bind x f).answer = _
  unfold Check.bind
  cases x.answer <;> rfl

@[simp] theorem answer_notice (n : Notice) : (notice n).answer = .ok () := rfl

@[simp] theorem answer_ofExcept (x : Except Error α) : (ofExcept x).answer = x := rfl

@[simp] theorem answer_readingKeys (keys : List Text) (x : Except Error α) :
    (readingKeys keys x).answer = x := rfl

end Check

end RoleGate
