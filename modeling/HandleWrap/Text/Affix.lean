set_option autoImplicit false

/-! # Cutting and replacing at the front of a text

Three operations on texts as lists of characters: taking away a given beginning, cutting off a
given number of UTF-8 bytes, and replacing the leftmost occurrence of a pattern. `stripLeading?`
and `dropBytes?` say exactly what they took away (`eq_append_of_stripLeading?`,
`eq_append_of_dropBytes?`), so names built from a prefix can be taken apart again. -/

namespace HandleWrap.Text

/-- What follows `start` in a text that begins with it. -/
def stripLeading? : List Char → List Char → Option (List Char)
  | [], text => some text
  | _ :: _, [] => none
  | p :: start, c :: text => if p = c then stripLeading? start text else none

/-- What is left of a text without its first `n` UTF-8 bytes: `none` if the text is shorter, or if
    the cut falls inside a character. -/
def dropBytes? : Nat → List Char → Option (List Char)
  | 0, text => some text
  | _ + 1, [] => none
  | n + 1, c :: text =>
    if c.utf8Size ≤ n + 1 then dropBytes? (n + 1 - c.utf8Size) text else none

/-- The text with the leftmost occurrence of `pattern` replaced by `new`. An empty pattern occurs
    at the very beginning, so `new` is put in front. -/
def replaceLeftmost (pattern new : List Char) : List Char → List Char
  | [] => if pattern.isEmpty then new else []
  | c :: text =>
    match stripLeading? pattern (c :: text) with
    | some rest => new ++ rest
    | none => c :: replaceLeftmost pattern new text

/-- Number of UTF-8 bytes that a text takes. -/
def byteCount : List Char → Nat
  | [] => 0
  | c :: text => c.utf8Size + byteCount text

/-! ## What was taken away -/

theorem stripLeading?_append (start text : List Char) :
    stripLeading? start (start ++ text) = some text := by
  induction start with
  | nil => cases text <;> rfl
  | cons p start ih => simp [stripLeading?, ih]

theorem eq_append_of_stripLeading? {start text rest : List Char}
    (h : stripLeading? start text = some rest) : text = start ++ rest := by
  induction start generalizing text with
  | nil => simp_all [stripLeading?]
  | cons p start ih =>
    cases text with
    | nil => simp [stripLeading?] at h
    | cons c text =>
      simp only [stripLeading?] at h
      split at h
      · next hpc => rw [hpc, ih h, List.cons_append]
      · simp at h

/-- A cut behind the bytes of `front` is a cut in what follows it. -/
theorem dropBytes?_front {n : Nat} (front text : List Char) (h : byteCount front ≤ n) :
    dropBytes? n (front ++ text) = dropBytes? (n - byteCount front) text := by
  induction front generalizing n with
  | nil => rfl
  | cons c front ih =>
    have hc : 0 < c.utf8Size := Char.utf8Size_pos c
    rw [byteCount] at h ⊢
    cases n with
    | zero => omega
    | succ n =>
      rw [List.cons_append, dropBytes?, if_pos (by omega), ih (by omega), Nat.sub_sub]

/-- Cutting off exactly the bytes of `front` leaves what follows it. -/
theorem dropBytes?_append (front text : List Char) :
    dropBytes? (byteCount front) (front ++ text) = some text := by
  rw [dropBytes?_front front text (Nat.le_refl _), Nat.sub_self]
  cases text <;> rfl

theorem eq_append_of_dropBytes? {n : Nat} {text rest : List Char}
    (h : dropBytes? n text = some rest) :
    ∃ front, text = front ++ rest ∧ byteCount front = n := by
  induction text generalizing n with
  | nil =>
    cases n with
    | zero => exact ⟨[], Option.some.inj h, rfl⟩
    | succ n => cases h
  | cons c text ih =>
    cases n with
    | zero => exact ⟨[], Option.some.inj h, rfl⟩
    | succ n =>
      simp only [dropBytes?] at h
      split at h
      · next hc =>
        obtain ⟨front, rfl, hfront⟩ := ih h
        exact ⟨c :: front, rfl, by rw [byteCount]; omega⟩
      · cases h

theorem mem_of_mem_dropBytes? {n : Nat} {text rest : List Char} (h : dropBytes? n text = some rest)
    {c : Char} (hc : c ∈ rest) : c ∈ text := by
  obtain ⟨front, rfl, _⟩ := eq_append_of_dropBytes? h
  exact List.mem_append_right front hc

/-- What stands in a text after a replacement is new or stood there before. -/
theorem mem_replaceLeftmost {pattern new text : List Char} {c : Char}
    (hc : c ∈ replaceLeftmost pattern new text) : c ∈ new ∨ c ∈ text := by
  induction text with
  | nil =>
    simp only [replaceLeftmost] at hc
    split at hc
    · exact Or.inl hc
    · cases hc
  | cons first text ih =>
    simp only [replaceLeftmost] at hc
    split at hc
    · next rest hrest =>
      rcases List.mem_append.1 hc with hc | hc
      · exact Or.inl hc
      · rw [eq_append_of_stripLeading? hrest]
        exact Or.inr (List.mem_append_right _ hc)
    · rcases List.mem_cons.1 hc with rfl | hc
      · exact Or.inr List.mem_cons_self
      · exact (ih hc).imp_right (List.mem_cons_of_mem _)

end HandleWrap.Text
