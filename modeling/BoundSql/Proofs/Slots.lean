import BoundSql.Fragment

/-! Fragments with their values put in. Where the texts of a fragment hold no question mark, each
mark of its SQL is a slot, and filling the marks of the SQL with the values in order gives the
fragment with every value written in its own slot. -/

namespace BoundSql

/-- The text with its marks replaced, the first by the first of `texts` and so on. What is put in
is not searched for marks, and a mark for which no text is left stays. -/
def fillMarks (texts : List String) : List Char → List Char
  | [] => []
  | char :: rest =>
      if char = '?' then
        match texts with
        | [] => char :: fillMarks [] rest
        | text :: others => text.toList ++ fillMarks others rest
      else char :: fillMarks texts rest

theorem fillMarks_append (texts : List String) (unmarked rest : List Char)
    (free : '?' ∉ unmarked) :
    fillMarks texts (unmarked ++ rest) = unmarked ++ fillMarks texts rest := by
  induction unmarked with
  | nil => rfl
  | cons char others ih =>
      simp only [List.mem_cons, not_or] at free
      have different : ¬char = '?' := fun same => free.1 same.symm
      simp only [List.cons_append, fillMarks, different, if_false, ih free.2]

def MarkFree (texts : List String) : Prop := ∀ text ∈ texts, '?' ∉ text.toList

instance (texts : List String) : Decidable (MarkFree texts) :=
  inferInstanceAs (Decidable (∀ text ∈ texts, '?' ∉ text.toList))

@[simp] theorem markFree_nil : MarkFree [] := by simp [MarkFree]

@[simp] theorem markFree_cons (text : String) (texts : List String) :
    MarkFree (text :: texts) ↔ '?' ∉ text.toList ∧ MarkFree texts := by
  simp [MarkFree]

@[simp] theorem markFree_append (first second : List String) :
    MarkFree (first ++ second) ↔ MarkFree first ∧ MarkFree second := by
  simp [MarkFree, or_imp, forall_and]

theorem markFree_flatMap {α : Type} (texts : α → List String) (items : List α) :
    MarkFree (items.flatMap texts) ↔ ∀ item ∈ items, MarkFree (texts item) := by
  simp only [MarkFree, List.mem_flatMap]
  constructor
  · intro free item member text present
    exact free text ⟨item, member, present⟩
  · rintro free text ⟨item, member, present⟩
    exact free item member text present

def Value.mark : Value → String := fun _ => "?"

namespace Piece

def text? : Piece → Option String
  | .text content => some content
  | .slot _ => none

def written (write : Value → String) : Piece → String
  | .text content => content
  | .slot value => write value

end Piece

namespace Fragment

def texts (fragment : Fragment) : List String := fragment.filterMap Piece.text?

def written (write : Value → String) (fragment : Fragment) : String :=
  String.join (fragment.map (Piece.written write))

section Pieces

variable (write : Value → String)

@[simp] theorem sql_nil : sql [] = "" := rfl

@[simp] theorem values_nil : values [] = [] := rfl

@[simp] theorem written_nil : written write [] = "" := rfl

@[simp] theorem texts_nil : texts [] = [] := rfl

@[simp] theorem sql_text (content : String) (rest : Fragment) :
    sql (.text content :: rest) = content ++ sql rest := by
  simp [sql, Piece.sql]

@[simp] theorem sql_slot (value : Value) (rest : Fragment) :
    sql (.slot value :: rest) = "?" ++ sql rest := by
  simp [sql, Piece.sql]

@[simp] theorem values_text (content : String) (rest : Fragment) :
    values (.text content :: rest) = values rest := rfl

@[simp] theorem values_slot (value : Value) (rest : Fragment) :
    values (.slot value :: rest) = value :: values rest := rfl

@[simp] theorem written_text (content : String) (rest : Fragment) :
    written write (.text content :: rest) = content ++ written write rest := by
  simp [written, Piece.written]

@[simp] theorem written_slot (value : Value) (rest : Fragment) :
    written write (.slot value :: rest) = write value ++ written write rest := by
  simp [written, Piece.written]

@[simp] theorem written_append (first second : Fragment) :
    written write (first ++ second) = written write first ++ written write second := by
  simp [written, String.join_append]

@[simp] theorem texts_text (content : String) (rest : Fragment) :
    texts (.text content :: rest) = content :: texts rest := rfl

@[simp] theorem texts_slot (value : Value) (rest : Fragment) :
    texts (.slot value :: rest) = texts rest := rfl

@[simp] theorem texts_append (first second : Fragment) :
    texts (first ++ second) = texts first ++ texts second := by
  simp [texts]

end Pieces

theorem joined_cons_cons (separator : String) (first second : Fragment) (rest : List Fragment) :
    joined separator (first :: second :: rest) =
      first ++ .text separator :: joined separator (second :: rest) := rfl

theorem values_joined (separator : String) (parts : List Fragment) :
    (joined separator parts).values = parts.flatMap values := by
  induction parts with
  | nil => rfl
  | cons first rest ih =>
      cases rest with
      | nil => simp [joined]
      | cons second others =>
          rw [joined_cons_cons, values_append, values_text, ih]
          rfl

theorem written_joined (write : Value → String) (separator : String) (parts : List Fragment) :
    (joined separator parts).written write = separator.intercalate (parts.map (written write)) := by
  induction parts with
  | nil => rfl
  | cons first rest ih =>
      cases rest with
      | nil => simp [joined]
      | cons second others =>
          rw [joined_cons_cons, written_append, written_text, ih]
          simp only [List.map_cons, String.intercalate_cons_cons, String.append_assoc]

theorem sql_eq_written (fragment : Fragment) : fragment.sql = fragment.written Value.mark := by
  induction fragment with
  | nil => rfl
  | cons piece rest ih => cases piece <;> simp [ih, Value.mark]

theorem sql_joined (separator : String) (parts : List Fragment) :
    (joined separator parts).sql = separator.intercalate (parts.map sql) := by
  have same : sql = written Value.mark := funext sql_eq_written
  rw [same, written_joined]

theorem markFree_joined (separator : String) (parts : List Fragment)
    (separatorFree : '?' ∉ separator.toList) (free : ∀ part ∈ parts, MarkFree part.texts) :
    MarkFree (joined separator parts).texts := by
  induction parts with
  | nil => simp [joined]
  | cons first rest ih =>
      have firstFree : MarkFree first.texts := free first (by simp)
      have restFree := ih fun part member => free part (List.mem_cons_of_mem first member)
      cases rest with
      | nil => simpa [joined] using firstFree
      | cons second others =>
          rw [joined_cons_cons, texts_append, texts_text]
          simp [firstFree, separatorFree, restFree]

theorem markCount_eq_length (fragment : Fragment) (free : MarkFree fragment.texts) :
    fragment.markCount = fragment.values.length := by
  induction fragment with
  | nil => rfl
  | cons piece rest ih =>
      cases piece with
      | text content =>
          simp only [texts_text, markFree_cons] at free
          have rest_eq := ih free.2
          simp only [markCount] at rest_eq ⊢
          simp [rest_eq, List.count_eq_zero_of_not_mem free.1]
      | slot value =>
          have rest_eq := ih (by simpa using free)
          simp only [markCount] at rest_eq ⊢
          simp [rest_eq, Nat.add_comm]

theorem fillMarks_sql (write : Value → String) (fragment : Fragment)
    (free : MarkFree fragment.texts) :
    fillMarks (fragment.values.map write) fragment.sql.toList =
      (fragment.written write).toList := by
  induction fragment with
  | nil => rfl
  | cons piece rest ih =>
      cases piece with
      | text content =>
          simp only [texts_text, markFree_cons] at free
          simp only [sql_text, values_text, written_text, String.toList_append]
          rw [fillMarks_append _ _ _ free.1, ih free.2]
      | slot value =>
          have rest_eq := ih (by simpa using free)
          simpa [fillMarks] using rest_eq

/-- The fragment holds `texts` and no other text that could have a mark, binds `values` in this
order, and with its values in place reads as `text` says. -/
structure Renders (texts : List String) (values : List Value) (text : (Value → String) → String)
    (fragment : Fragment) : Prop where
  values_eq : fragment.values = values
  written_eq : ∀ write, fragment.written write = text write
  markFree : MarkFree texts → MarkFree fragment.texts

structure PartsRender (texts : List String) (values : List Value)
    (text : (Value → String) → List String) (parts : List Fragment) : Prop where
  values_eq : parts.flatMap Fragment.values = values
  written_eq : ∀ write, parts.map (Fragment.written write) = text write
  markFree : MarkFree texts → ∀ part ∈ parts, MarkFree part.texts

theorem Renders.nil : Renders [] [] (fun _ => "") [] where
  values_eq := rfl
  written_eq := fun _ => rfl
  markFree := by simp

theorem Renders.ofText (texts : List String) (content : String)
    (free : MarkFree texts → '?' ∉ content.toList) :
    Renders texts [] (fun _ => content) (ofText content) where
  values_eq := rfl
  written_eq := fun _ => by simp [Fragment.ofText]
  markFree := fun textsFree => by simpa [Fragment.ofText] using free textsFree

theorem Renders.append {texts others : List String} {values more : List Value}
    {text rest : (Value → String) → String} {first second : Fragment}
    (renders : Renders texts values text first) (following : Renders others more rest second) :
    Renders (texts ++ others) (values ++ more) (fun write => text write ++ rest write)
      (first ++ second) where
  values_eq := by rw [values_append, renders.values_eq, following.values_eq]
  written_eq := fun write => by
    rw [written_append, renders.written_eq write, following.written_eq write]
  markFree := fun free => by
    rw [markFree_append] at free
    rw [texts_append, markFree_append]
    exact ⟨renders.markFree free.1, following.markFree free.2⟩

theorem Renders.parenthesized {texts : List String} {values : List Value}
    {text : (Value → String) → String} {fragment : Fragment}
    (renders : Renders texts values text fragment) :
    Renders texts values (fun write => "(" ++ text write ++ ")") fragment.parenthesized where
  values_eq := by simp [Fragment.parenthesized, renders.values_eq]
  written_eq := fun write => by
    simp [Fragment.parenthesized, renders.written_eq write, String.append_assoc]
  markFree := fun free => by simp [Fragment.parenthesized, renders.markFree free]

theorem PartsRender.nil : PartsRender [] [] (fun _ => []) [] where
  values_eq := rfl
  written_eq := fun _ => rfl
  markFree := by simp

theorem PartsRender.cons {texts others : List String} {values more : List Value}
    {text : (Value → String) → String} {rest : (Value → String) → List String}
    {first : Fragment} {parts : List Fragment} (renders : Renders texts values text first)
    (following : PartsRender others more rest parts) :
    PartsRender (texts ++ others) (values ++ more) (fun write => text write :: rest write)
      (first :: parts) where
  values_eq := by rw [List.flatMap_cons, renders.values_eq, following.values_eq]
  written_eq := fun write => by
    rw [List.map_cons, renders.written_eq write, following.written_eq write]
  markFree := fun free => by
    rw [markFree_append] at free
    simp only [List.forall_mem_cons]
    exact ⟨renders.markFree free.1, following.markFree free.2⟩

theorem PartsRender.map {α : Type} (items : List α) {part : α → Fragment} {texts : α → List String}
    {values : α → List Value} {text : α → (Value → String) → String}
    (renders : ∀ item, Renders (texts item) (values item) (text item) (part item)) :
    PartsRender (items.flatMap texts) (items.flatMap values)
      (fun write => items.map fun item => text item write) (items.map part) := by
  induction items with
  | nil => exact PartsRender.nil
  | cons item rest ih => exact PartsRender.cons (renders item) ih

theorem PartsRender.joined {texts : List String} {values : List Value}
    {text : (Value → String) → List String} {parts : List Fragment}
    (render : PartsRender texts values text parts) (separator : String)
    (separatorFree : '?' ∉ separator.toList) :
    Renders texts values (fun write => separator.intercalate (text write))
      (joined separator parts) where
  values_eq := by rw [values_joined, render.values_eq]
  written_eq := fun write => by rw [written_joined, render.written_eq write]
  markFree := fun free => markFree_joined separator parts separatorFree (render.markFree free)

theorem Renders.fill {texts : List String} {values : List Value}
    {text : (Value → String) → String} {fragment : Fragment}
    (renders : Renders texts values text fragment) (free : MarkFree texts) :
    fragment.markCount = fragment.values.length ∧ ∀ write,
      fillMarks (fragment.values.map write) fragment.sql.toList = (text write).toList := by
  refine ⟨markCount_eq_length fragment (renders.markFree free), ?_⟩
  intro write
  rw [fillMarks_sql write fragment (renders.markFree free), renders.written_eq write]

end Fragment

end BoundSql
