import ServiceAccess.Credentials.Pattern
import ServiceAccess.Proofs.Text.Regex

/-! # What the patterns of credential texts accept

* **`Pattern.region_accepts_iff`**: regions of the cloud, `Pattern.IsRegion`.
* **`Pattern.webAddress_accepts_iff`**: what starts like a web address. -/

namespace ServiceAccess.Pattern

variable {s : String} {cs : List Char}

/-- **A region of the cloud**: two small letters, words of small letters, each behind a dash, and a number behind one. -/
def IsRegion (cs : List Char) : Prop :=
  ∃ (code : List Char) (words : List (List Char)) (number : List Char),
    code.length = 2 ∧ (∀ c ∈ code, c.isLower = true) ∧
    words ≠ [] ∧ (∀ word ∈ words, word ≠ [] ∧ ∀ c ∈ word, c.isLower = true) ∧
    number ≠ [] ∧ (∀ c ∈ number, c.isDigit = true) ∧ cs = code ++ (words.flatMap ('-' :: ·) ++ '-' :: number)

/-- **The pattern of regions accepts regions**, and nothing else. -/
theorem region_accepts_iff : region.accepts s = true ↔ IsRegion s.toList := by
  have dash : "-".toList = ['-'] := rfl
  rw [region, Regex.acceptsWhole_iff]
  simp only [Regex.mem_seq_iff, Regex.mem_plus_behind_iff, Regex.mem_word_iff, Regex.mem_times_one_iff, smallWord,
    Regex.mem_plus_one_iff, dash, List.singleton_append]
  constructor
  · rintro ⟨code, ⟨two, letters⟩, -, ⟨-, ⟨words, some, small, rfl⟩, -, ⟨-, rfl, number, ⟨long, digits⟩, rfl⟩, rfl⟩, whole⟩
    exact ⟨code, words, number, two, letters, some, small, long, digits, whole.symm⟩
  · rintro ⟨code, words, number, two, letters, some, small, long, digits, whole⟩
    exact ⟨code, ⟨two, letters⟩, _, ⟨_, ⟨words, some, small, rfl⟩, _, ⟨_, rfl, number, ⟨long, digits⟩, rfl⟩, rfl⟩,
      whole.symm⟩

/-- A web address starts with a scheme. -/
theorem mem_webLead_iff : cs ∈ webLead.language ↔ cs = "http://".toList ∨ cs = "https://".toList := by
  simp only [webLead, Regex.mem_seq_iff, Regex.mem_opt_iff, Regex.mem_word_iff]
  constructor
  · rintro ⟨-, rfl, -, ⟨-, rfl | rfl, -, rfl, rfl⟩, rfl⟩
    · exact .inr rfl
    · exact .inl rfl
  · rintro (rfl | rfl)
    · exact ⟨_, rfl, _, ⟨_, .inr rfl, _, rfl, rfl⟩, rfl⟩
    · exact ⟨_, rfl, _, ⟨_, .inl rfl, _, rfl, rfl⟩, rfl⟩

/-- **The pattern of web addresses accepts what starts with a scheme.** -/
theorem webAddress_accepts_iff : webAddress.accepts s = true ↔
    "http://".toList <+: s.toList ∨ "https://".toList <+: s.toList := by
  rw [webAddress, Regex.acceptsStart_iff]
  simp only [mem_webLead_iff, or_and_right, exists_or, exists_eq_left]

end ServiceAccess.Pattern
