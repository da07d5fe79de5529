import Mathlib.Computability.Language
import ServiceAccess.Text.Regex

/-! # What regular expressions match

The ways to match an expression are an enumeration with an order, which backtracking goes through. What they are ways to
match is a language.

* **`Regex.language`**: the texts that an expression matches. **`mem_splits_iff`**: the ways to match the beginning of
  a text are all those that the language allows.
* **`Regex.Divides`**: a division of a text among the parts of a pattern. **`exec?_eq_some_iff`**: where there is only
  one division of a text, a match is that one, whatever the order of preference.
* **`mem_separated_iff`**: repetitions with a separator. -/

open Computability

namespace ServiceAccess.Regex

/-! ## Languages -/

/-- **The texts that an expression matches.** -/
def language : Regex → Language Char
  | .empty => 1
  | .one p => {cs | ∃ c, p c = true ∧ cs = [c]}
  | .seq r s => r.language * s.language
  | .opt r => r.language + 1
  | .star r => r.language∗

variable {p : Char → Bool} {r s : Regex} {cs taken rest : List Char}

theorem mem_empty_iff : cs ∈ language .empty ↔ cs = [] := Iff.rfl

theorem mem_one_iff : cs ∈ language (.one p) ↔ ∃ c, p c = true ∧ cs = [c] := Iff.rfl

theorem mem_seq_iff : cs ∈ language (.seq r s) ↔ ∃ a ∈ r.language, ∃ b ∈ s.language, a ++ b = cs := Language.mem_mul

theorem mem_opt_iff : cs ∈ language (.opt r) ↔ cs ∈ r.language ∨ cs = [] := Language.mem_add ..

/-- A repetition is no round, or a first one that is not empty and further ones. -/
theorem mem_star_iff : cs ∈ language (.star r) ↔
    cs = [] ∨ ∃ a ∈ r.language, a ≠ [] ∧ ∃ b ∈ language (.star r), a ++ b = cs := by
  constructor
  · intro within
    obtain ⟨rounds, rfl, proper⟩ := Language.mem_kstar_iff_exists_nonempty.1 within
    cases rounds with
    | nil => exact .inl rfl
    | cons a rounds =>
      obtain ⟨⟨first, some⟩, later⟩ := List.forall_mem_cons.1 proper
      exact .inr ⟨a, first, some, rounds.flatten, Language.join_mem_kstar fun y here => (later y here).1, rfl⟩
  · rintro (rfl | ⟨a, first, -, b, ⟨rounds, rfl, later⟩, rfl⟩)
    · exact Language.nil_mem_kstar _
    · exact ⟨a :: rounds, rfl, List.forall_mem_cons.2 ⟨first, later⟩⟩

/-- A repetition of a character class. -/
theorem mem_star_one_iff : cs ∈ language (.star (.one p)) ↔ ∀ c ∈ cs, p c = true := by
  induction cs with
  | nil => exact ⟨fun _ => List.forall_mem_nil _, fun _ => mem_star_iff.2 (.inl rfl)⟩
  | cons c cs ih =>
    rw [mem_star_iff, List.forall_mem_cons, ← ih]
    constructor
    · rintro (none | ⟨a, ⟨d, fits, rfl⟩, -, b, later, whole⟩)
      · cases none
      · obtain ⟨rfl, rfl⟩ := List.cons.inj whole
        exact ⟨fits, later⟩
    · rintro ⟨fits, later⟩
      exact .inr ⟨[c], ⟨c, fits, rfl⟩, List.cons_ne_nil _ _, cs, later, rfl⟩

/-- One or more characters of a class. -/
theorem mem_plus_one_iff : cs ∈ language (.plus (.one p)) ↔ cs ≠ [] ∧ ∀ c ∈ cs, p c = true := by
  rw [plus, mem_seq_iff]
  constructor
  · rintro ⟨a, ⟨c, fits, rfl⟩, b, later, rfl⟩
    exact ⟨List.cons_ne_nil _ _, List.forall_mem_cons.2 ⟨fits, mem_star_one_iff.1 later⟩⟩
  · rintro ⟨some, fit⟩
    cases cs with
    | nil => exact absurd rfl some
    | cons c cs =>
      obtain ⟨fits, later⟩ := List.forall_mem_cons.1 fit
      exact ⟨[c], ⟨c, fits, rfl⟩, cs, mem_star_one_iff.2 later, rfl⟩

/-- A fixed text matches itself. -/
theorem mem_word_iff {text : String} : cs ∈ (word text).language ↔ cs = text.toList := by
  rw [word, spelled]
  induction text.toList generalizing cs with
  | nil => exact mem_empty_iff
  | cons c text ih =>
    rw [List.foldr_cons, mem_seq_iff]
    constructor
    · rintro ⟨a, ⟨d, same, rfl⟩, b, later, rfl⟩
      rw [ih.1 later, beq_iff_eq.1 same, List.singleton_append]
    · rintro rfl
      exact ⟨[c], ⟨c, beq_self_eq_true c, rfl⟩, text, ih.2 rfl, rfl⟩

/-- One or more rounds. -/
theorem mem_plus_iff : cs ∈ (plus r).language ↔
    ∃ rounds : List (List Char), rounds ≠ [] ∧ (∀ round ∈ rounds, round ∈ r.language) ∧ cs = rounds.flatten := by
  rw [plus, mem_seq_iff]
  constructor
  · rintro ⟨first, within, -, ⟨rounds, rfl, later⟩, rfl⟩
    exact ⟨first :: rounds, List.cons_ne_nil _ _, List.forall_mem_cons.2 ⟨within, later⟩, rfl⟩
  · rintro ⟨rounds, some, within, rfl⟩
    cases rounds with
    | nil => exact absurd rfl some
    | cons first rounds =>
      obtain ⟨within, later⟩ := List.forall_mem_cons.1 within
      exact ⟨first, within, _, ⟨rounds, rfl, later⟩, rfl⟩

/-- One or more rounds, each behind a fixed text. -/
theorem mem_plus_behind_iff {text : String} : cs ∈ (plus (.seq (.word text) r)).language ↔
    ∃ parts : List (List Char), parts ≠ [] ∧ (∀ part ∈ parts, part ∈ r.language) ∧
      cs = parts.flatMap (text.toList ++ ·) := by
  simp only [mem_plus_iff, mem_seq_iff, mem_word_iff, exists_eq_left]
  constructor
  · rintro ⟨rounds, some, within, rfl⟩
    induction rounds with
    | nil => exact absurd rfl some
    | cons round rounds ih =>
      obtain ⟨⟨part, fits, rfl⟩, later⟩ := List.forall_mem_cons.1 within
      by_cases last : rounds = []
      · subst last
        exact ⟨[part], List.cons_ne_nil _ _, List.forall_mem_singleton.2 fits, by simp⟩
      · obtain ⟨parts, -, fit, whole⟩ := ih last later
        exact ⟨part :: parts, List.cons_ne_nil _ _, List.forall_mem_cons.2 ⟨fits, fit⟩, by simp [whole]⟩
  · rintro ⟨parts, some, fit, rfl⟩
    refine ⟨parts.map (text.toList ++ ·), by simpa using some, ?_, List.flatMap_def ..⟩
    rintro round among
    obtain ⟨part, here, rfl⟩ := List.mem_map.1 among
    exact ⟨part, fit part here, rfl⟩

/-- A number of characters of a class. -/
theorem mem_times_one_iff {n : Nat} :
    cs ∈ (times (.one p) n).language ↔ cs.length = n ∧ ∀ c ∈ cs, p c = true := by
  induction n generalizing cs with
  | zero =>
    rw [times, mem_empty_iff, List.length_eq_zero_iff]
    constructor
    · rintro rfl
      simp
    · exact And.left
  | succ n ih =>
    rw [times, mem_seq_iff]
    constructor
    · rintro ⟨a, ⟨c, fits, rfl⟩, b, later, rfl⟩
      obtain ⟨length, fit⟩ := ih.1 later
      exact ⟨by simp [length], List.forall_mem_cons.2 ⟨fits, fit⟩⟩
    · rintro ⟨length, fit⟩
      cases cs with
      | nil => cases length
      | cons c cs =>
        obtain ⟨fits, later⟩ := List.forall_mem_cons.1 fit
        exact ⟨[c], ⟨c, fits, rfl⟩, cs, ih.2 ⟨Nat.succ.inj length, later⟩, rfl⟩

/-- Up to a number of characters of a class. -/
theorem mem_upTo_one_iff {n : Nat} :
    cs ∈ (upTo (.one p) n).language ↔ cs.length ≤ n ∧ ∀ c ∈ cs, p c = true := by
  induction n generalizing cs with
  | zero =>
    rw [upTo, mem_empty_iff, Nat.le_zero, List.length_eq_zero_iff]
    constructor
    · rintro rfl
      simp
    · exact And.left
  | succ n ih =>
    rw [upTo, mem_opt_iff, mem_seq_iff]
    constructor
    · rintro (⟨a, ⟨c, fits, rfl⟩, b, later, rfl⟩ | rfl)
      · obtain ⟨length, fit⟩ := ih.1 later
        exact ⟨by simpa using length, List.forall_mem_cons.2 ⟨fits, fit⟩⟩
      · simp
    · rintro ⟨length, fit⟩
      cases cs with
      | nil => exact .inr rfl
      | cons c cs =>
        obtain ⟨fits, later⟩ := List.forall_mem_cons.1 fit
        exact .inl ⟨[c], ⟨c, fits, rfl⟩, cs, ih.2 ⟨Nat.le_of_succ_le_succ length, later⟩, rfl⟩

/-- Between two numbers of characters of a class. -/
theorem mem_between_one_iff {least most : Nat} (ordered : least ≤ most) :
    cs ∈ (between (.one p) least most).language ↔
      least ≤ cs.length ∧ cs.length ≤ most ∧ ∀ c ∈ cs, p c = true := by
  rw [between, mem_seq_iff]
  constructor
  · rintro ⟨a, first, b, later, rfl⟩
    obtain ⟨length, fit⟩ := mem_times_one_iff.1 first
    obtain ⟨length', fit'⟩ := mem_upTo_one_iff.1 later
    rw [List.length_append]
    exact ⟨by omega, by omega, List.forall_mem_append.2 ⟨fit, fit'⟩⟩
  · rintro ⟨atLeast, atMost, fit⟩
    rw [← List.take_append_drop least cs, List.forall_mem_append] at fit
    refine ⟨cs.take least, mem_times_one_iff.2 ⟨?_, fit.1⟩, cs.drop least, mem_upTo_one_iff.2 ⟨?_, fit.2⟩,
      List.take_append_drop ..⟩
    · rw [List.length_take]
      omega
    · rw [List.length_drop]
      omega

/-- Texts are joined one after the other. -/
theorem intercalate_cons (c : Char) (a : List Char) {parts : List (List Char)} (some : parts ≠ []) :
    [c].intercalate (a :: parts) = a ++ c :: [c].intercalate parts := by
  cases parts with
  | nil => exact absurd rfl some
  | cons b parts => simp [List.intercalate]

/-- **Repetitions with a separator** match texts that are joined by it. -/
theorem mem_separated_iff {text : String} {c : Char} (sep : text.toList = [c]) :
    cs ∈ language (.seq r (.star (.seq (.word text) r))) ↔
      ∃ parts, parts ≠ [] ∧ (∀ part ∈ parts, part ∈ r.language) ∧ cs = [c].intercalate parts := by
  rw [mem_seq_iff]
  constructor
  · rintro ⟨a, first, b, ⟨rounds, rfl, each⟩, rfl⟩
    induction rounds generalizing a with
    | nil => exact ⟨[a], List.cons_ne_nil _ _, by simpa using first, by simp [List.intercalate]⟩
    | cons round rounds ih =>
      obtain ⟨within, later⟩ := List.forall_mem_cons.1 each
      obtain ⟨lead, separator, next, fits, rfl⟩ := mem_seq_iff.1 within
      obtain ⟨parts, some, all, whole⟩ := ih next fits later
      refine ⟨a :: parts, List.cons_ne_nil _ _, List.forall_mem_cons.2 ⟨first, all⟩, ?_⟩
      rw [intercalate_cons c a some, ← whole, mem_word_iff.1 separator, sep]
      simp
  · rintro ⟨parts, some, all, rfl⟩
    induction parts with
    | nil => exact absurd rfl some
    | cons a parts ih =>
      obtain ⟨first, later⟩ := List.forall_mem_cons.1 all
      -- behind the last part there is no separator
      by_cases last : parts = []
      · subst last
        exact ⟨a, first, [], mem_star_iff.2 (.inl rfl), by simp [List.intercalate]⟩
      · obtain ⟨next, fits, b, ⟨rounds, rfl, each⟩, whole⟩ := ih last later
        have round : c :: next ∈ language (.seq (.word text) r) :=
          mem_seq_iff.2 ⟨[c], mem_word_iff.2 sep.symm, next, fits, rfl⟩
        refine ⟨a, first, _, ⟨(c :: next) :: rounds, rfl, List.forall_mem_cons.2 ⟨round, each⟩⟩, ?_⟩
        rw [intercalate_cons c a last, ← whole]
        simp

/-! ## Ways to match -/

/-- What is matched in two steps is put together. -/
theorem mem_andThen_iff {s : Split} {splits : List Char → List Split} :
    (taken, rest) ∈ s.andThen splits ↔ ∃ more, (more, rest) ∈ splits s.2 ∧ s.1 ++ more = taken := by
  simp [Split.andThen]

/-- A repetition goes through all ways to match its rounds. -/
theorem mem_repeated_iff {splits : List Char → List Split}
    (ways : ∀ cs taken rest, (taken, rest) ∈ splits cs ↔ taken ∈ r.language ∧ taken ++ rest = cs) {n : Nat}
    (enough : cs.length ≤ n) :
    (taken, rest) ∈ repeated splits n cs ↔ taken ∈ language (.star r) ∧ taken ++ rest = cs := by
  induction n generalizing cs taken with
  | zero =>
    obtain rfl := List.length_eq_zero_iff.1 (Nat.le_zero.1 enough)
    rw [repeated, List.mem_singleton, Prod.mk.injEq, List.append_eq_nil_iff]
    constructor
    · rintro ⟨rfl, rfl⟩
      exact ⟨mem_star_iff.2 (.inl rfl), rfl, rfl⟩
    · exact And.right
  | succ n ih =>
    rw [repeated, List.mem_append, List.mem_flatMap, List.mem_singleton, Prod.mk.injEq, mem_star_iff]
    constructor
    · rintro (⟨⟨a, left⟩, first, more⟩ | ⟨rfl, rfl⟩)
      · obtain ⟨first, proper⟩ := List.mem_filter.1 first
        obtain ⟨b, later, rfl⟩ := mem_andThen_iff.1 more
        obtain ⟨within, rfl⟩ := (ways _ _ _).1 first
        -- a round that takes something leaves less, so that the steps suffice
        have some : a ≠ [] := by simpa using proper
        have shorter : left.length ≤ n := by
          have := List.length_pos_iff.2 some
          rw [List.length_append] at enough
          omega
        obtain ⟨within', rfl⟩ := (ih shorter).1 later
        exact ⟨.inr ⟨a, within, some, b, within', rfl⟩, List.append_assoc ..⟩
      · exact ⟨.inl rfl, rfl⟩
    · rintro ⟨rfl | ⟨a, first, some, b, later, rfl⟩, rfl⟩
      · exact .inr ⟨rfl, rfl⟩
      · have shorter : (b ++ rest).length ≤ n := by
          have := List.length_pos_iff.2 some
          rw [List.append_assoc, List.length_append] at enough
          omega
        refine .inl ⟨(a, b ++ rest), List.mem_filter.2 ⟨?_, by simpa using some⟩, ?_⟩
        · exact (ways _ _ _).2 ⟨first, (List.append_assoc ..).symm⟩
        · exact mem_andThen_iff.2 ⟨b, (ih shorter).2 ⟨later, rfl⟩, rfl⟩

/-- **All ways to match are found**, and no other. -/
theorem mem_splits_iff : (taken, rest) ∈ r.splits cs ↔ taken ∈ r.language ∧ taken ++ rest = cs := by
  induction r generalizing cs taken rest with
  | empty =>
    rw [splits, List.mem_singleton, Prod.mk.injEq, mem_empty_iff]
    constructor <;>
    · rintro ⟨rfl, rfl⟩
      exact ⟨rfl, rfl⟩
  | one p =>
    cases cs with
    | nil =>
      refine iff_of_false List.not_mem_nil ?_
      rintro ⟨⟨c, -, rfl⟩, whole⟩
      cases whole
    | cons c cs =>
      rw [splits, List.mem_ite_nil_right, List.mem_singleton, Prod.mk.injEq]
      constructor
      · rintro ⟨fits, rfl, rfl⟩
        exact ⟨⟨c, fits, rfl⟩, rfl⟩
      · rintro ⟨⟨d, fits, rfl⟩, whole⟩
        obtain ⟨rfl, rfl⟩ := List.cons.inj whole
        exact ⟨fits, rfl, rfl⟩
  | seq r s ihr ihs =>
    rw [splits, List.mem_flatMap, mem_seq_iff]
    constructor
    · rintro ⟨⟨a, left⟩, first, more⟩
      obtain ⟨b, later, rfl⟩ := mem_andThen_iff.1 more
      obtain ⟨within, rfl⟩ := ihr.1 first
      obtain ⟨within', rfl⟩ := ihs.1 later
      exact ⟨⟨a, within, b, within', rfl⟩, List.append_assoc ..⟩
    · rintro ⟨⟨a, first, b, later, rfl⟩, rfl⟩
      exact ⟨(a, b ++ rest), ihr.2 ⟨first, (List.append_assoc ..).symm⟩,
        mem_andThen_iff.2 ⟨b, ihs.2 ⟨later, rfl⟩, rfl⟩⟩
  | opt r ih =>
    rw [splits, List.mem_append, ih, List.mem_singleton, Prod.mk.injEq, mem_opt_iff, or_and_right]
    refine or_congr_right ⟨?_, ?_⟩ <;>
    · rintro ⟨rfl, rfl⟩
      exact ⟨rfl, rfl⟩
  | star r ih => exact mem_repeated_iff (fun _ _ _ => ih) le_rfl

/-! ## Divisions -/

/-- **A division of a text** among the parts of a pattern: every part has a piece of the text that it matches. -/
inductive Divides : List Part → List Char → List (List Char) → Prop
  /-- Nothing is left for no parts. -/
  | nil : Divides [] [] []
  /-- A piece for a part that is not wanted. -/
  | skip {r : Regex} {parts : List Part} {taken rest : List Char} {groups : List (List Char)} :
      taken ∈ r.language → Divides parts rest groups → Divides (.skip r :: parts) (taken ++ rest) groups
  /-- A piece for a group. -/
  | group {r : Regex} {parts : List Part} {taken rest : List Char} {groups : List (List Char)} :
      taken ∈ r.language → Divides parts rest groups →
        Divides (.group r :: parts) (taken ++ rest) (taken :: groups)

variable {pattern : List Part} {groups : List (List Char)}

/-- No division without parts divides anything but the empty text. -/
theorem divides_nil_iff : Divides [] cs groups ↔ cs = [] ∧ groups = [] := by
  constructor
  · rintro ⟨⟩
    exact ⟨rfl, rfl⟩
  · rintro ⟨rfl, rfl⟩
    exact .nil

theorem divides_skip_iff : Divides (.skip r :: pattern) cs groups ↔
    ∃ taken ∈ r.language, ∃ rest, Divides pattern rest groups ∧ taken ++ rest = cs := by
  constructor
  · rintro (_ | ⟨within, later⟩)
    exact ⟨_, within, _, later, rfl⟩
  · rintro ⟨taken, within, rest, later, rfl⟩
    exact .skip within later

theorem divides_group_iff : Divides (.group r :: pattern) cs groups ↔
    ∃ taken ∈ r.language, ∃ rest more, Divides pattern rest more ∧ taken ++ rest = cs ∧ groups = taken :: more := by
  constructor
  · rintro (_ | _ | ⟨within, later⟩)
    exact ⟨_, within, _, _, later, rfl, rfl⟩
  · rintro ⟨taken, within, rest, more, later, rfl, rfl⟩
    exact .group within later

/-- **All divisions are found**, and no other. -/
theorem mem_divisions_iff : groups ∈ divisions pattern cs ↔ Divides pattern cs groups := by
  induction pattern generalizing cs groups with
  | nil =>
    rw [divisions, List.mem_ite_nil_right, List.isEmpty_iff, List.mem_singleton, divides_nil_iff]
  | cons part pattern ih =>
    cases part with
    | skip r =>
      rw [divisions, List.mem_flatMap, divides_skip_iff]
      constructor
      · rintro ⟨⟨taken, rest⟩, way, later⟩
        obtain ⟨within, whole⟩ := mem_splits_iff.1 way
        exact ⟨taken, within, rest, ih.1 later, whole⟩
      · rintro ⟨taken, within, rest, later, whole⟩
        exact ⟨(taken, rest), mem_splits_iff.2 ⟨within, whole⟩, ih.2 later⟩
    | group r =>
      rw [divisions, List.mem_flatMap, divides_group_iff]
      constructor
      · rintro ⟨⟨taken, rest⟩, way, later⟩
        obtain ⟨within, whole⟩ := mem_splits_iff.1 way
        obtain ⟨more, next, rfl⟩ := List.mem_map.1 later
        exact ⟨taken, within, rest, more, ih.1 next, whole, rfl⟩
      · rintro ⟨taken, within, rest, more, later, whole, rfl⟩
        exact ⟨(taken, rest), mem_splits_iff.2 ⟨within, whole⟩, List.mem_map.2 ⟨more, ih.2 later, rfl⟩⟩

/-- **A match is the division of the text**, where there is one only: no order of preference makes a difference. -/
theorem exec?_eq_some_iff (only : ∀ groups groups', Divides pattern cs groups → Divides pattern cs groups' →
    groups = groups') {found : Match} : exec? pattern cs = some found ↔
      ∃ groups, Divides pattern cs groups ∧ found = ⟨String.ofList cs, groups.map String.ofList⟩ := by
  rw [exec?, Option.map_eq_some_iff]
  constructor
  · rintro ⟨groups, first, rfl⟩
    exact ⟨groups, mem_divisions_iff.1 (List.mem_of_head? first), rfl⟩
  · rintro ⟨groups, divides, rfl⟩
    cases all : divisions pattern cs with
    | nil => simpa [all] using mem_divisions_iff.2 divides
    | cons groups' others =>
      have among : groups' ∈ divisions pattern cs := by simp [all]
      exact ⟨groups', rfl, by rw [only _ _ (mem_divisions_iff.1 among) divides]⟩

/-- A whole text is accepted when it stands in the language. -/
theorem acceptsWhole_iff {text : String} : acceptsWhole r text = true ↔ text.toList ∈ r.language := by
  rw [acceptsWhole, exec?, Option.isSome_map, List.isSome_head?, ← List.isEmpty_eq_false_iff,
    List.isEmpty_eq_false_iff_exists_mem]
  simp only [mem_divisions_iff, divides_skip_iff, divides_nil_iff]
  constructor
  · rintro ⟨-, taken, within, -, ⟨rfl, rfl⟩, whole⟩
    rwa [← whole, List.append_nil]
  · intro within
    exact ⟨[], _, within, [], ⟨rfl, rfl⟩, List.append_nil _⟩

/-- The beginning of a text is accepted when it stands in the language. -/
theorem acceptsStart_iff {text : String} :
    acceptsStart r text = true ↔ ∃ lead ∈ r.language, lead <+: text.toList := by
  rw [acceptsStart, Bool.not_eq_true', List.isEmpty_eq_false_iff_exists_mem]
  simp only [Prod.exists, mem_splits_iff]
  constructor
  · rintro ⟨lead, rest, within, whole⟩
    exact ⟨lead, within, rest, whole⟩
  · rintro ⟨lead, within, rest, whole⟩
    exact ⟨lead, rest, within, whole⟩

end ServiceAccess.Regex
