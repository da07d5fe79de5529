/-! # Sixteen-bit code units

Lengths and sort orders of texts count 16-bit code units: a character beyond `U+FFFF` is two units,
a high surrogate followed by a low one, and sorts below the characters `U+E000` to `U+FFFF`. -/

namespace ServiceAccess.Text

/-- The 16-bit code units of one character. -/
def unitsOf (c : Char) : List Nat :=
  if c.toNat < 0x10000 then [c.toNat]
  else [0xD800 + (c.toNat - 0x10000) / 0x400, 0xDC00 + (c.toNat - 0x10000) % 0x400]

/-- The 16-bit code units of a text. -/
def units (s : String) : List Nat := s.toList.flatMap unitsOf

/-- The length of a text in 16-bit code units. -/
def length16 (s : String) : Nat := (units s).length

/-- Whether one list of units is at most another, in dictionary order. -/
def unitsLe : List Nat → List Nat → Bool
  | [], _ => true
  | _ :: _, [] => false
  | a :: as, b :: bs => decide (a < b) || (decide (a = b) && unitsLe as bs)

/-- Whether one text sorts no later than another by code units. -/
def sortsBefore (a b : String) : Bool := unitsLe (units a) (units b)

/-- Sort texts by code units. -/
def sort (l : List String) : List String := l.mergeSort sortsBefore

@[simp] theorem unitsLe_refl (l : List Nat) : unitsLe l l = true := by
  induction l with
  | nil => rfl
  | cons a l ih => simp [unitsLe, ih]

/-- Two lists of units that are each at most the other are equal. -/
theorem unitsLe_antisymm {a b : List Nat} (h : unitsLe a b = true) (h' : unitsLe b a = true) :
    a = b := by
  induction a generalizing b with
  | nil => cases b with
    | nil => rfl
    | cons b bs => simp [unitsLe] at h'
  | cons x xs ih => cases b with
    | nil => simp [unitsLe] at h
    | cons y ys =>
      simp only [unitsLe, Bool.or_eq_true, decide_eq_true_eq, Bool.and_eq_true] at h h'
      have hxy : x = y := by omega
      subst hxy
      simp only [Nat.lt_irrefl, true_and, false_or] at h h'
      rw [ih h h']

theorem unitsLe_total (a b : List Nat) : (unitsLe a b || unitsLe b a) = true := by
  induction a generalizing b with
  | nil => simp [unitsLe]
  | cons x xs ih => cases b with
    | nil => simp [unitsLe]
    | cons y ys =>
      have := ih ys
      simp only [unitsLe, Bool.or_eq_true, decide_eq_true_eq, Bool.and_eq_true] at this ⊢
      rcases Nat.lt_trichotomy x y with h | rfl | h
      · exact .inl (.inl h)
      · rcases this with h | h
        · exact .inl (.inr ⟨rfl, h⟩)
        · exact .inr (.inr ⟨rfl, h⟩)
      · exact .inr (.inl h)

theorem unitsLe_trans {a b c : List Nat} (h : unitsLe a b = true) (h' : unitsLe b c = true) :
    unitsLe a c = true := by
  induction a generalizing b c with
  | nil => rfl
  | cons x xs ih => cases b with
    | nil => simp [unitsLe] at h
    | cons y ys => cases c with
      | nil => simp [unitsLe] at h'
      | cons z zs =>
        simp only [unitsLe, Bool.or_eq_true, decide_eq_true_eq, Bool.and_eq_true] at h h' ⊢
        rcases h with h | ⟨rfl, h⟩
        · left; omega
        · rcases h' with h' | ⟨rfl, h'⟩
          · left; exact h'
          · right; exact ⟨rfl, ih h h'⟩

theorem unitsOf_ne_nil (c : Char) : unitsOf c ≠ [] := by
  rw [unitsOf]
  split <;> simp

/-- The units of a character tell where the next one starts. -/
theorem unitsOf_append_inj {c d : Char} {l m : List Nat} (h : unitsOf c ++ l = unitsOf d ++ m) :
    c = d ∧ l = m := by
  -- a character is no surrogate
  have scalar : ∀ e : Char, e.toNat < 0xD800 ∨ 0xDFFF < e.toNat ∧ e.toNat < 0x110000 :=
    fun e => e.valid
  have left := scalar c
  have right := scalar d
  unfold unitsOf at h
  split at h <;> split at h <;>
    simp only [List.cons_append, List.nil_append, List.cons.injEq] at h
  · exact ⟨Char.toNat_inj.1 h.1, h.2⟩
  · omega
  · omega
  · exact ⟨Char.toNat_inj.1 (by omega), h.2.2⟩

/-- Texts with the same units are equal. -/
theorem units_injective {a b : String} (h : units a = units b) : a = b := by
  rw [← String.toList_inj]
  unfold units at h
  generalize a.toList = l at h ⊢
  generalize b.toList = m at h ⊢
  induction l generalizing m with
  | nil =>
    cases m with
    | nil => rfl
    | cons d m => exact absurd (List.append_eq_nil_iff.1 h.symm).1 (unitsOf_ne_nil d)
  | cons c l ih =>
    cases m with
    | nil => exact absurd (List.append_eq_nil_iff.1 h).1 (unitsOf_ne_nil c)
    | cons d m =>
      rw [List.flatMap_cons, List.flatMap_cons] at h
      obtain ⟨rfl, rest⟩ := unitsOf_append_inj h
      rw [ih m rest]

/-- A text that is not empty has units. -/
theorem length16_pos {s : String} (some : s ≠ "") : 0 < length16 s :=
  List.length_pos_iff.2 fun none => some (units_injective none)

/-- Two texts that each sort no later than the other are equal. -/
theorem sortsBefore_antisymm {a b : String} (h : sortsBefore a b = true)
    (h' : sortsBefore b a = true) : a = b :=
  units_injective (unitsLe_antisymm h h')

/-- What is sorted by texts stands in their order. -/
theorem pairwise_mergeSort {α : Type} (f : α → String) (l : List α) :
    (l.mergeSort fun a b => sortsBefore (f a) (f b)).Pairwise fun a b => sortsBefore (f a) (f b) = true := by
  refine List.pairwise_mergeSort (fun _ _ _ => ?_) (fun _ _ => ?_) l
  · exact unitsLe_trans
  · exact unitsLe_total _ _

end ServiceAccess.Text
