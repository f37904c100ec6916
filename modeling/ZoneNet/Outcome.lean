/-!
# Outcomes

An operation on a state gives a value or an error, and a state in both cases: what a failed
operation has done stays done.
-/

namespace ZoneNet

/-- What an operation gave, and the state that it left. -/
abbrev Outcome (ε α σ : Type) := Except ε α × σ

namespace Outcome

variable {ε ε' α β σ : Type}

/-- Goes on from a success; an error stands, with the state it left. -/
def andThen (o : Outcome ε α σ) (f : α → σ → Outcome ε β σ) : Outcome ε β σ :=
  match o with
  | (.ok a, s) => f a s
  | (.error e, s) => (.error e, s)

/-- Tells an error in other words. -/
def mapError (g : ε → ε') (o : Outcome ε α σ) : Outcome ε' α σ :=
  match o with
  | (.ok a, s) => (.ok a, s)
  | (.error e, s) => (.error (g e), s)

@[simp] theorem andThen_ok (a : α) (s : σ) (f : α → σ → Outcome ε β σ) :
    andThen (.ok a, s) f = f a s := rfl

@[simp] theorem andThen_error (e : ε) (s : σ) (f : α → σ → Outcome ε β σ) :
    andThen (.error e, s) f = (.error e, s) := rfl

@[simp] theorem mapError_ok (a : α) (s : σ) (g : ε → ε') :
    mapError g (.ok a, s) = (.ok a, s) := rfl

@[simp] theorem mapError_error (e : ε) (s : σ) (g : ε → ε') :
    mapError g ((.error e, s) : Outcome ε α σ) = (.error (g e), s) := rfl

/-- Does one operation for each member in order and stops at the first error. -/
def each (f : α → σ → Outcome ε Unit σ) : List α → σ → Outcome ε Unit σ
  | [], s => (.ok (), s)
  | a :: r, s => (f a s).andThen fun _ => each f r

@[simp] theorem each_nil (f : α → σ → Outcome ε Unit σ) (s : σ) : each f [] s = (.ok (), s) := rfl

theorem each_cons (f : α → σ → Outcome ε Unit σ) (a : α) (r : List α) (s : σ) :
    each f (a :: r) s = (f a s).andThen fun _ => each f r := rfl

/-- One list after another is done as one list. -/
theorem each_append (f : α → σ → Outcome ε Unit σ) (l r : List α) (s : σ) :
    each f (l ++ r) s = (each f l s).andThen fun _ => each f r := by
  induction l generalizing s with
  | nil => rfl
  | cons a l ih =>
    rw [List.cons_append, each_cons, each_cons]
    rcases f a s with ⟨_ | _, t⟩
    · rfl
    · exact ih t

end Outcome

end ZoneNet
