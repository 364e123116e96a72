/-
Programs that are put together from calls.

A large program does little itself: it makes calls, looks at what they return, and handles what they
raise.  What holds of the calls, whatever their arguments, and is not lost by putting them together
holds of the program.  So a program is taken apart once, and each property is shown of the calls.

`MadeOf` is the shape of such a program, and there is one rule for each way of putting calls
together.  Three kinds of statements are carried along it: triples, relations that every step stays
within, and what is known of every value that is returned.
-/
import SelfHealing.Lib.Frames

namespace Interleaving

variable {W σ ε : Type}

/-- The programs that are put together from calls in `C`. -/
inductive MadeOf (C : ∀ α : Type, Prog W σ ε α → Prop) : ∀ {α : Type}, Prog W σ ε α → Prop
  | pure {α : Type} (a : α) : MadeOf C (pure a)
  | throw {α : Type} (e : ε) : MadeOf C (throw e : Prog W σ ε α)
  | call {α : Type} (x : Prog W σ ε α) (h : C α x) : MadeOf C x
  | bind {α β : Type} (x : Prog W σ ε α) (g : α → Prog W σ ε β) (hx : MadeOf C x)
      (hg : ∀ a, MadeOf C (g a)) : MadeOf C (x >>= g)
  | handle {α : Type} (x : Prog W σ ε α) (g : ε → Prog W σ ε α) (hx : MadeOf C x)
      (hg : ∀ e, MadeOf C (g e)) : MadeOf C (tryCatch x g)

namespace MadeOf

variable {C : ∀ α : Type, Prog W σ ε α → Prop} {α β : Type}

theorem and_then {x : Prog W σ ε α} {g : α → Prog W σ ε β} (hx : MadeOf C x)
    (hg : ∀ a, MadeOf C (g a)) : MadeOf C (x >>= g) := .bind x g hx hg

theorem caught {x : Prog W σ ε α} {g : ε → Prog W σ ε α} (hx : MadeOf C x)
    (hg : ∀ e, MadeOf C (g e)) : MadeOf C (tryCatch x g) := .handle x g hx hg

/-- What each call keeps, the program keeps, however it ends. -/
theorem triple {A E : Type} {P : Protocol W A E σ} {p : Nat} {R : σ → Prop}
    (hC : ∀ (α : Type) (x : Prog W σ ε α), C α x → P.Triple p R x (fun _ => R) (fun _ => R))
    {x : Prog W σ ε α} (h : MadeOf C x) : P.Triple p R x (fun _ => R) (fun _ => R) := by
  induction h with
  | pure a => exact Protocol.triple_pure a fun _ _ h => h
  | throw e => exact Protocol.triple_throw e fun _ _ h => h
  | call x h => exact hC _ x h
  | bind x g _ _ ihx ihg => exact Protocol.Triple.bind ihx ihg
  | handle x g _ _ ihx ihg => exact Protocol.Triple.handle ihx ihg

/-- A graph is made of what its nodes are made of. -/
theorem invoke {N S : Type} {G : StateGraph W σ ε N S} {exhausted : ε}
    (hnode : ∀ n s, MadeOf C (G.node n s)) (limit : Nat) (n : N) (s : S) :
    MadeOf C (G.invoke exhausted limit n s) := by
  induction limit generalizing n s with
  | zero => exact .throw exhausted
  | succ limit ih =>
      refine (hnode n s).and_then fun s' => ?_
      split
      · exact .pure s'
      · exact ih _ _

end MadeOf

end Interleaving
