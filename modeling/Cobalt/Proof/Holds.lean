import Cobalt.Server.Types

/-!
# Outcomes of fallible code

`Holds P Q r`: the computation `r : Except ε α` succeeds with a value in `P` or fails with an
error in `Q`. Every function of the loop gets one lemma of this form; `Holds.bind` and
`Holds.foldlM` compose them along the `do` blocks and loops of `Server::bind`. With `Q` the
errors other than a failed `unwrap` it says "no `unwrap` panics"; with `Q = fun _ => True` it is
an invariant of the successful runs.
-/

namespace Cobalt

variable {ε α β : Type}

@[simp] theorem ok_bind (a : α) (f : α → Except ε β) : (Except.ok a >>= f) = f a := rfl

@[simp] theorem error_bind (e : ε) (f : α → Except ε β) :
    (Except.error e >>= f : Except ε β) = .error e := rfl

@[simp] theorem pure_eq_ok (a : α) : (pure a : Except ε α) = .ok a := rfl

theorem bind_eq_ok {x : Except ε α} {f : α → Except ε β} {b : β} :
    x >>= f = .ok b ↔ ∃ a, x = .ok a ∧ f a = .ok b := by
  cases x <;> simp

@[simp] theorem unwrap_eq_ok {line : Nat} {o : Option α} {a : α} :
    unwrap line o = .ok a ↔ o = some a := by
  cases o <;> simp [unwrap]

/-- `r` succeeds with a value in `P` or fails with an error in `Q`. -/
def Holds (P : α → Prop) (Q : ε → Prop) : Except ε α → Prop
  | .ok a => P a
  | .error e => Q e

namespace Holds

variable {P P' : α → Prop} {Q : ε → Prop}

@[simp] theorem ok_iff {a : α} : Holds P Q (.ok a) ↔ P a := .rfl

@[simp] theorem error_iff {e : ε} : Holds P Q (.error e : Except ε α) ↔ Q e := .rfl

theorem of_ok {r : Except ε α} {a : α} (h : Holds P Q r) (hr : r = .ok a) : P a := by
  subst hr; exact h

theorem of_error {r : Except ε α} {e : ε} (h : Holds P Q r) (hr : r = .error e) : Q e := by
  subst hr; exact h

theorem mono {Q' : ε → Prop} {r : Except ε α} (h : Holds P Q r) (hp : ∀ a, P a → P' a)
    (hq : ∀ e, Q e → Q' e) : Holds P' Q' r := by
  cases r with
  | ok a => exact hp a h
  | error e => exact hq e h

theorem bind {R : β → Prop} {x : Except ε α} {f : α → Except ε β} (hx : Holds P Q x)
    (hf : ∀ a, P a → Holds R Q (f a)) : Holds R Q (x >>= f) := by
  cases x with
  | ok a => exact hf a hx
  | error e => exact hx

/-- A fold whose every step keeps `P` (or fails in `Q`) keeps `P` (or fails in `Q`). -/
theorem foldlM {f : β → α → Except ε β} {P : β → Prop} :
    ∀ {l : List α} {b : β}, (∀ a ∈ l, ∀ b, P b → Holds P Q (f b a)) → P b →
      Holds P Q (l.foldlM f b)
  | [], _, _, hb => hb
  | a :: l, _, hf, hb => by
    rw [List.foldlM_cons]
    exact (hf a (.head _) _ hb).bind fun b' hb' =>
      foldlM (fun a' ha' => hf a' (.tail _ ha')) hb'

end Holds

/-- The panics other than a failed `unwrap`. -/
def Panic.NotUnwrap (p : Panic) : Prop := ∀ line, p ≠ .unwrapNone line

@[simp] theorem Panic.notUnwrap_unwrapNone (line : Nat) : ¬(Panic.unwrapNone line).NotUnwrap :=
  fun h => h line rfl

end Cobalt
