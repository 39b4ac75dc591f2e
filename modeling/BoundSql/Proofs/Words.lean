import BoundSql.Text.Blank
import Mathlib.Data.List.TakeWhile

/-! Trimming, cutting and words, each by what it does to a text that is written in parts. A text can
be written in one way only as words with blanks between them, and these are its words. -/

namespace BoundSql.Text

theorem isBlank_toUpper (char : Char) : isBlank char.toUpper = isBlank char := by
  unfold Char.toUpper
  split
  · rename_i lower
    have low : 97 ≤ char.val.toNat := UInt32.le_iff_toNat_le.mp lower.1
    have high : char.val.toNat ≤ 122 := UInt32.le_iff_toNat_le.mp lower.2
    have code : (char.val + ('A'.val - 'a'.val)).toNat = char.val.toNat - 32 := by
      have offset : ('A'.val - 'a'.val).toNat = 4294967264 := rfl
      rw [UInt32.toNat_add, offset]
      omega
    rw [Bool.eq_iff_iff]
    simp only [isBlank, Char.toNat, code, Bool.or_eq_true, Bool.and_eq_true, decide_eq_true_eq,
      beq_iff_eq]
    omega
  · rfl

section Mark

variable {mark : Char} {front : List Char} (free : mark ∉ front)

include free

theorem beforeMark_of_free : beforeMark mark front = front := by
  rw [beforeMark, List.takeWhile_eq_self_iff]
  intro char member
  simp only [bne_iff_ne]
  rintro rfl
  exact free member

theorem beforeMark_append (back : List Char) :
    beforeMark mark (front ++ mark :: back) = front := by
  have kept := beforeMark_of_free free
  rw [beforeMark, List.takeWhile_eq_self_iff] at kept
  rw [beforeMark, List.takeWhile_append_of_pos kept]
  simp

theorem beforeMark_append_suffix {suffix : List Char}
    (marked : suffix = [] ∨ suffix.head? = some mark) :
    beforeMark mark (front ++ suffix) = front := by
  cases suffix with
  | nil => rw [List.append_nil, beforeMark_of_free free]
  | cons first back =>
      have same : first = mark := by simpa using marked
      rw [same, beforeMark_append free]

end Mark

theorem exists_beforeMark (mark : Char) (chars : List Char) :
    mark ∉ beforeMark mark chars ∧ ∃ suffix, chars = beforeMark mark chars ++ suffix ∧
      (suffix = [] ∨ suffix.head? = some mark) := by
  constructor
  · intro member
    simpa using List.mem_takeWhile_imp member
  · refine ⟨chars.dropWhile (· != mark), List.takeWhile_append_dropWhile.symm, ?_⟩
    have stops := List.head?_dropWhile_not (· != mark) chars
    cases shape : chars.dropWhile (· != mark) with
    | nil => exact .inl rfl
    | cons first rest =>
        rw [shape] at stops
        exact .inr (by simpa using stops)

structure Trimmed (chars : List Char) : Prop where
  front : ∀ char ∈ chars.head?, isBlank char = false
  back : ∀ char ∈ chars.getLast?, isBlank char = false

theorem trim_eq_self {chars : List Char} (trimmed : Trimmed chars) : trim chars = chars := by
  have start : trimStart chars = chars := by
    cases chars with
    | nil => rfl
    | cons first rest =>
        have filled : isBlank first = false := trimmed.front first rfl
        simp [trimStart, filled]
  have reversed : chars.reverse.dropWhile isBlank = chars.reverse := by
    cases shape : chars.reverse with
    | nil => rfl
    | cons last rest =>
        have filled : isBlank last = false :=
          trimmed.back last (by simp [← List.head?_reverse, shape])
        simp [filled]
  rw [trim, start, trimEnd, reversed, List.reverse_reverse]

theorem trim_append {lead trail : List Char} (leadBlank : ∀ char ∈ lead, isBlank char = true)
    (trailBlank : ∀ char ∈ trail, isBlank char = true) (body : List Char) :
    trim (lead ++ body ++ trail) = trim body := by
  have start : trimStart (lead ++ body ++ trail) = trimStart (body ++ trail) := by
    rw [trimStart, List.append_assoc, List.dropWhile_append_of_pos leadBlank, trimStart]
  have trailing (chars : List Char) : trimEnd (chars ++ trail) = trimEnd chars := by
    have reversed : ∀ char ∈ trail.reverse, isBlank char = true := by simpa using trailBlank
    rw [trimEnd, List.reverse_append, List.dropWhile_append_of_pos reversed, trimEnd]
  rw [trim, start, trim]
  by_cases blank : (body.dropWhile isBlank).isEmpty = true
  · have empty : trimStart body = [] := by simpa [trimStart] using blank
    have none : trimStart (body ++ trail) = [] := by
      rw [trimStart, List.dropWhile_append, if_pos blank, List.dropWhile_eq_nil_iff]
      exact trailBlank
    rw [none, empty]
  · rw [trimStart, List.dropWhile_append, if_neg blank, trailing, trimStart]

theorem trimStart_eq_trim_append (chars : List Char) :
    trimStart chars = trim chars ++ ((trimStart chars).reverse.takeWhile isBlank).reverse := by
  rw [trim, trimEnd, ← List.reverse_append, List.takeWhile_append_dropWhile, List.reverse_reverse]

theorem exists_trim (chars : List Char) : ∃ lead trail, chars = lead ++ trim chars ++ trail ∧
    (∀ char ∈ lead, isBlank char = true) ∧ ∀ char ∈ trail, isBlank char = true := by
  refine ⟨chars.takeWhile isBlank, ((trimStart chars).reverse.takeWhile isBlank).reverse, ?_, ?_,
    ?_⟩
  · rw [List.append_assoc, ← trimStart_eq_trim_append, trimStart, List.takeWhile_append_dropWhile]
  · exact fun char => List.mem_takeWhile_imp
  · intro char member
    exact List.mem_takeWhile_imp (List.mem_reverse.mp member)

theorem nonblank_of_head?_dropWhile {chars : List Char} {char : Char}
    (first : char ∈ (chars.dropWhile isBlank).head?) : isBlank char = false := by
  have stops := List.head?_dropWhile_not isBlank chars
  rw [Option.mem_def.mp first] at stops
  exact stops

theorem trimmed_trim (chars : List Char) : Trimmed (trim chars) where
  front := fun char first => by
    have start := trimStart_eq_trim_append chars
    cases shape : trim chars with
    | nil => simp [shape] at first
    | cons head rest =>
        rw [shape] at first start
        have dropped : char ∈ (chars.dropWhile isBlank).head? := by
          rw [← trimStart, start]
          exact first
        exact nonblank_of_head?_dropWhile dropped
  back := fun char last => by
    rw [trim, trimEnd, List.getLast?_reverse] at last
    exact nonblank_of_head?_dropWhile last

/-- The text is these words in this order, with blanks between them and perhaps around them. -/
inductive Spaced : List (List Char) → List Char → Prop
  | blank {gap : List Char} : (∀ char ∈ gap, isBlank char = true) → Spaced [] gap
  | word (gap word rest : List Char) {words : List (List Char)} :
      (∀ char ∈ gap, isBlank char = true) → word ≠ [] → (∀ char ∈ word, isBlank char = false) →
      (∀ char ∈ rest.head?, isBlank char = true) → Spaced words rest →
      Spaced (word :: words) (gap ++ word ++ rest)

theorem words_append_of_blank {gap : List Char} (blank : ∀ char ∈ gap, isBlank char = true)
    (rest : List Char) : words (gap ++ rest) = words rest := by
  induction gap with
  | nil => rfl
  | cons char others ih =>
      simp only [List.forall_mem_cons] at blank
      rw [← ih blank.2]
      simp [words, wordsFrom, blank.1]

theorem wordsFrom_append {word : List Char} (free : ∀ char ∈ word, isBlank char = false)
    (current rest : List Char) :
    wordsFrom current (word ++ rest) = wordsFrom (word.reverse ++ current) rest := by
  induction word generalizing current with
  | nil => rfl
  | cons char others ih =>
      simp only [List.forall_mem_cons] at free
      simp [wordsFrom, free.1, ih free.2]

theorem wordsFrom_of_break {current rest : List Char} (filled : current ≠ [])
    (ends : ∀ char ∈ rest.head?, isBlank char = true) :
    wordsFrom current rest = current.reverse :: words rest := by
  cases rest with
  | nil => simp [wordsFrom, words, filled]
  | cons char others =>
      have blank : isBlank char = true := ends char rfl
      simp [wordsFrom, words, filled, blank]

theorem words_of_spaced {parts : List (List Char)} {chars : List Char}
    (spaced : Spaced parts chars) : words chars = parts := by
  induction spaced with
  | @blank gap blank =>
      have none := words_append_of_blank blank []
      rw [List.append_nil] at none
      exact none
  | word gap word rest blank filled free ends _ ih =>
      rw [List.append_assoc, words_append_of_blank blank, words, wordsFrom_append free,
        wordsFrom_of_break (by simpa using filled) ends, ih]
      simp

theorem Spaced.cons_blank {parts : List (List Char)} {chars : List Char} {char : Char}
    (blank : isBlank char = true) (spaced : Spaced parts chars) : Spaced parts (char :: chars) := by
  cases spaced with
  | blank rest => exact .blank (by simpa using ⟨blank, rest⟩)
  | word gap word rest gapBlank filled free ends following =>
      exact .word (char :: gap) word rest (by simpa using ⟨blank, gapBlank⟩) filled free ends
        following

theorem Spaced.exists_cons {parts : List (List Char)} {chars : List Char} {char : Char}
    (filled : isBlank char = false) (spaced : Spaced parts chars) :
    ∃ others, Spaced others (char :: chars) := by
  by_cases ends : ∀ next ∈ chars.head?, isBlank next = true
  · exact ⟨[char] :: parts, .word [] [char] chars (by simp) (by simp) (by simpa using filled) ends
      spaced⟩
  · cases spaced with
    | blank rest => exact absurd (fun next first => rest next (List.mem_of_mem_head? first)) ends
    | @word gap word rest words gapBlank present free wordEnds following =>
        cases gap with
        | nil =>
            exact ⟨(char :: word) :: words, .word [] (char :: word) rest (by simp) (by simp)
              (by simpa using ⟨filled, free⟩) wordEnds following⟩
        | cons first others =>
            simp only [List.forall_mem_cons] at gapBlank
            simp [gapBlank.1] at ends

theorem exists_spaced (chars : List Char) : ∃ parts, Spaced parts chars := by
  induction chars with
  | nil => exact ⟨[], .blank (by simp)⟩
  | cons char rest ih =>
      obtain ⟨parts, spaced⟩ := ih
      cases blank : isBlank char with
      | true => exact ⟨parts, spaced.cons_blank blank⟩
      | false => exact spaced.exists_cons blank

theorem spaced_words (chars : List Char) : Spaced (words chars) chars := by
  obtain ⟨parts, spaced⟩ := exists_spaced chars
  rw [words_of_spaced spaced]
  exact spaced

theorem Trimmed.eq_nil_of_spaced {chars : List Char} (trimmed : Trimmed chars)
    (spaced : Spaced [] chars) : chars = [] := by
  cases spaced with
  | blank all =>
      cases chars with
      | nil => rfl
      | cons first rest =>
          have filled : isBlank first = false := trimmed.front first rfl
          simp [all first] at filled

theorem Spaced.word_free {parts : List (List Char)} {chars : List Char}
    (spaced : Spaced parts chars) :
    ∀ word ∈ parts, word ≠ [] ∧ ∀ char ∈ word, isBlank char = false := by
  induction spaced with
  | blank _ => simp
  | word gap word rest _ filled free _ _ ih =>
      simp only [List.forall_mem_cons]
      exact ⟨⟨filled, free⟩, ih⟩

theorem Spaced.mem_of_mem_word {parts : List (List Char)} {chars word : List Char} {char : Char}
    (spaced : Spaced parts chars) (member : word ∈ parts) (letter : char ∈ word) :
    char ∈ chars := by
  induction spaced with
  | blank _ => simp at member
  | word gap first rest _ _ _ _ _ ih =>
      simp only [List.mem_append]
      rcases List.mem_cons.mp member with rfl | among
      · exact .inl (.inr letter)
      · exact .inr (ih among)

section Split

variable {column : List Char} (free : ∀ char ∈ column, isBlank char = false)

include free

theorem splitAtBlank_of_free : splitAtBlank column = (column, none) := by
  have none : column.dropWhile (!isBlank ·) = [] := by
    rw [List.dropWhile_eq_nil_iff]
    intro char member
    simp [free char member]
  rw [splitAtBlank, none]

theorem splitAtBlank_append {blank : Char} (space : isBlank blank = true) (written : List Char) :
    splitAtBlank (column ++ blank :: written) = (column, some written) := by
  have kept : ∀ char ∈ column, (!isBlank char) = true := by
    intro char member
    simp [free char member]
  have after : (column ++ blank :: written).dropWhile (!isBlank ·) = blank :: written := by
    rw [List.dropWhile_append_of_pos kept]
    simp [space]
  have before : (column ++ blank :: written).takeWhile (!isBlank ·) = column := by
    rw [List.takeWhile_append_of_pos kept]
    simp [space]
  rw [splitAtBlank, after, before]

end Split

theorem splitAtBlank_of_spaced {first : List Char} {rest : List (List Char)} {chars : List Char}
    (trimmed : Trimmed chars) (spaced : Spaced (first :: rest) chars) :
    splitAtBlank chars = (first, none) ∧ rest = [] ∨
      ∃ written, splitAtBlank chars = (first, some written) ∧ words written = rest ∧
        rest ≠ [] := by
  cases spaced with
  | word gap _ tail gapBlank filled free ends following =>
      have flush : gap = [] := by
        cases gap with
        | nil => rfl
        | cons char others =>
            simp only [List.forall_mem_cons] at gapBlank
            have front := trimmed.front char (by simp)
            simp [gapBlank.1] at front
      subst flush
      cases tail with
      | nil =>
          have none := words_of_spaced following
          refine .inl ⟨by simpa using splitAtBlank_of_free free, ?_⟩
          rw [← none]
          rfl
      | cons blank written =>
          have space : isBlank blank = true := ends blank rfl
          have split := splitAtBlank_append free space written
          have others := words_of_spaced following
          have same : words ([blank] ++ written) = words written :=
            words_append_of_blank (by simpa using space) written
          refine .inr ⟨written, by simpa using split, same.symm.trans others, ?_⟩
          rintro rfl
          cases following with
          | blank all =>
              have last : (blank :: written).getLast (by simp) ∈
                  ([] ++ first ++ blank :: written).getLast? := by
                simp [List.getLast?_eq_some_getLast]
              have back := trimmed.back _ last
              rw [all _ (List.getLast_mem _)] at back
              simp at back

end BoundSql.Text
