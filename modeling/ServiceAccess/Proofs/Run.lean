import Mathlib.Data.List.Induction
import Mathlib.Data.Nat.Count

/-! # Runs of stepwise systems

A stepwise system is a function `step : σ → ι → σ × List φ` that takes a state and something that
happens to the next state and the effects it asks for. This file says what a whole run of it is.

* **`after step s l`**: the state after the happenings `l`, one after another.
* **`trace step s l`**: the moments of that run, each a happening with the effects of its step.
* **`effects t`**: all effects of a trace, in order.
* **`trace_induction`**: what holds at the start and is kept by every step holds of the trace and the
  state of every run.
* **`tagged`**: where a system gives out numbers, the numbers that a run gives out with a tag; **`rank`**
  counts these. -/

namespace ServiceAccess.Run

variable {σ ι φ : Type}

/-- The moments of a run: what happened, and the effects of the step that it caused. -/
abbrev Trace (ι φ : Type) := List (ι × List φ)

/-- The effects of a trace, in order. -/
def effects (t : Trace ι φ) : List φ := t.flatMap Prod.snd

variable (step : σ → ι → σ × List φ)

/-- The state after some happenings, one after another. -/
def after (s : σ) : List ι → σ
  | [] => s
  | i :: l => after (step s i).1 l

/-- The moments of the run of some happenings, one after another. -/
def trace (s : σ) : List ι → Trace ι φ
  | [] => []
  | i :: l => (i, (step s i).2) :: trace (step s i).1 l

@[simp] theorem after_nil (s : σ) : after step s [] = s := rfl

@[simp] theorem after_cons (s : σ) (i : ι) (l : List ι) :
    after step s (i :: l) = after step (step s i).1 l := rfl

@[simp] theorem trace_nil (s : σ) : trace step s [] = [] := rfl

@[simp] theorem trace_cons (s : σ) (i : ι) (l : List ι) :
    trace step s (i :: l) = (i, (step s i).2) :: trace step (step s i).1 l := rfl

/-- A run in two parts ends where the second part ends. -/
theorem after_append (s : σ) (l m : List ι) :
    after step s (l ++ m) = after step (after step s l) m := by
  induction l generalizing s with
  | nil => rfl
  | cons i l ih => exact ih (step s i).1

/-- The trace of a run in two parts is the two traces, one behind the other. -/
theorem trace_append (s : σ) (l m : List ι) :
    trace step s (l ++ m) = trace step s l ++ trace step (after step s l) m := by
  induction l generalizing s with
  | nil => rfl
  | cons i l ih => simp only [List.cons_append, trace_cons, after_cons, ih]

@[simp] theorem effects_nil : effects ([] : Trace ι φ) = [] := rfl

@[simp] theorem effects_cons (m : ι × List φ) (t : Trace ι φ) :
    effects (m :: t) = m.2 ++ effects t := rfl

@[simp] theorem effects_append (t u : Trace ι φ) : effects (t ++ u) = effects t ++ effects u := by
  simp [effects]

/-- **The step principle.** What holds of the empty trace and the first state, and is kept by every
step, holds of every run. -/
theorem trace_induction {P : Trace ι φ → σ → Prop} {s : σ} (start : P [] s)
    (next : ∀ t c i, P t c → P (t ++ [(i, (step c i).2)]) (step c i).1) (l : List ι) :
    P (trace step s l) (after step s l) := by
  -- from the back, where the trace grows
  induction l using List.reverseRecOn with
  | nil => exact start
  | append_singleton l i ih =>
    rw [trace_append, after_append]
    exact next _ _ i ih

/-- What holds of the first state and is kept by every step holds at the end of every run. -/
theorem after_induction {P : σ → Prop} {s : σ} (start : P s)
    (next : ∀ c i, P c → P (step c i).1) (l : List ι) : P (after step s l) :=
  trace_induction step (P := fun _ c => P c) start (fun _ c i h => next c i h) l

/-! ## Numbers

A system that gives out numbers, one after another, keeps the next number in its state. -/

section
variable (next : σ → Nat) (tag : σ → ι → Nat → Bool)

/-- **The numbers that a run gives out with a tag.** The tag of a number is decided by the step that gives
it out. -/
def tagged (s : σ) : List ι → Nat → Bool
  | [], _ => false
  | i :: l, n =>
    if next s ≤ n ∧ n < next (step s i).1 then tag s i n else tagged (step s i).1 l n

variable {step tag}

/-- A number that has been given out before the run gets no tag in it. -/
theorem tagged_of_lt {s : σ} {l : List ι} {n : Nat}
    (rises : ∀ l m, next (after step s l) ≤ next (after step s (l ++ m))) (earlier : n < next s) :
    tagged step next tag s l n = false := by
  induction l generalizing s with
  | nil => rfl
  | cons i l ih =>
    rw [tagged, if_neg fun given => Nat.not_lt.2 given.1 earlier]
    exact ih (fun l m => rises (i :: l) m) (Nat.lt_of_lt_of_le earlier (rises [] [i]))

/-- The tag of a number that is given out in the course of a run. -/
theorem tagged_append_cons {s : σ} {l m : List ι} {i : ι} {n : Nat}
    (rises : ∀ l m, next (after step s l) ≤ next (after step s (l ++ m)))
    (given : next (after step s l) ≤ n ∧ n < next (step (after step s l) i).1) :
    tagged step next tag s (l ++ i :: m) n = tag (after step s l) i n := by
  induction l generalizing s with
  | nil => exact if_pos given
  | cons j l ih =>
    -- the steps before have given out smaller numbers
    have later : next (step s j).1 ≤ n := Nat.le_trans (rises [j] l) given.1
    rw [List.cons_append, tagged, if_neg fun early => Nat.not_lt.2 later early.2]
    exact ih (fun l m => rises (j :: l) m) given

end

/-- The rank of a number among those with a tag: how many of them are smaller. -/
def rank (tags : Nat → Bool) (n : Nat) : Nat := Nat.count (fun k => tags k = true) n

section
variable {tags : Nat → Bool} {m n : Nat}

theorem rank_succ (tags : Nat → Bool) (n : Nat) :
    rank tags (n + 1) = rank tags n + if tags n = true then 1 else 0 := Nat.count_succ ..

theorem rank_le_rank (le : m ≤ n) : rank tags m ≤ rank tags n := Nat.count_monotone _ le

/-- The order of numbers with a tag is that of their ranks. -/
theorem rank_lt_rank_iff (hm : tags m = true) : rank tags m < rank tags n ↔ m < n :=
  ⟨Nat.lt_of_count_lt_count, Nat.count_strict_mono hm⟩

/-- Numbers with a tag are told apart by their ranks. -/
theorem rank_inj (hm : tags m = true) (hn : tags n = true) : rank tags m = rank tags n ↔ m = n :=
  ⟨Nat.count_injective hm hn, congrArg _⟩

end

end ServiceAccess.Run
