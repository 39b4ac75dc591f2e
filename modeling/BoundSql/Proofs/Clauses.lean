import BoundSql.Proofs.Token

/-! Texts put together from pieces whose tokens do not run into each other, and statements as lists
of clauses. A clause begins with one of twelve keywords and goes on up to the next of them, so the
tokens of a statement tell its clauses. -/

namespace BoundSql

namespace Token

def ofText (text : String) : List Token := ofChars text.toList

def startsAlone (text : String) : Bool := text.toList.head?.all isAlone

def endsAlone (text : String) : Bool := text.toList.getLast?.all isAlone

theorem startsAlone_append {left right : String} (starts : startsAlone left = true)
    (following : left = "" → startsAlone right = true) : startsAlone (left ++ right) = true := by
  cases shape : left.toList with
  | nil =>
      have empty : left = "" := by simpa using shape
      simpa [empty] using following empty
  | cons first rest => simpa [startsAlone, shape] using starts

theorem endsAlone_append (left : String) {right : String} (filled : right ≠ "") :
    endsAlone (left ++ right) = endsAlone right := by
  have chars : right.toList ≠ [] := by simpa using filled
  simp [endsAlone, List.getLast?_eq_some_getLast chars, List.getLast?_append]

theorem ofText_append {left right : String}
    (apart : endsAlone left = true ∨ startsAlone right = true) :
    ofText (left ++ right) = ofText left ++ ofText right := by
  have runs : (left.toList ++ right.toList).splitBy joins =
      left.toList.splitBy joins ++ right.toList.splitBy joins := by
    apply List.splitBy_append
    intro last lastMember next nextMember
    rcases apart with ends | starts
    · simp only [endsAlone, Option.mem_def.mp lastMember, Option.all_some] at ends
      exact (joins_of_isAlone ends next).1
    · simp only [startsAlone, Option.mem_def.mp nextMember, Option.all_some] at starts
      exact (joins_of_isAlone starts last).2
  simp only [ofText, ofChars, String.toList_append, runs, List.filterMap_append]

theorem ofText_plainName {name : String} (plain : isPlainName name = true) :
    ofText name = [.word name] := ofChars_plainName plain

theorem ofText_intercalate {separator : String} (starts : startsAlone separator = true)
    (ends : endsAlone separator = true) (filled : separator ≠ "") (texts : List String) :
    ofText (separator.intercalate texts) = (ofText separator).intercalate (texts.map ofText) := by
  induction texts with
  | nil => rfl
  | cons first rest ih =>
      cases rest with
      | nil => simp
      | cons second others =>
          have last : endsAlone (first ++ separator) = true := by
            rw [endsAlone_append first filled, ends]
          rw [String.intercalate_cons_cons, ofText_append (.inl last), ofText_append (.inr starts),
            ih]
          simp [List.intercalate_cons_cons]

theorem startsAlone_join {texts : List String}
    (starts : ∀ text ∈ texts, startsAlone text = true) :
    startsAlone (String.join texts) = true := by
  induction texts with
  | nil => rfl
  | cons first rest ih =>
      simp only [List.forall_mem_cons] at starts
      rw [String.join_cons]
      exact startsAlone_append starts.1 fun _ => ih starts.2

theorem ofText_join {texts : List String} (starts : ∀ text ∈ texts, startsAlone text = true) :
    ofText (String.join texts) = texts.flatMap ofText := by
  induction texts with
  | nil => rfl
  | cons first rest ih =>
      simp only [List.forall_mem_cons] at starts
      rw [String.join_cons, ofText_append (.inr (startsAlone_join starts.2)), ih starts.2,
        List.flatMap_cons]

theorem forall_mem_intercalate {holds : Token → Prop} {separator : List Token}
    {items : List (List Token)} (separatorHolds : ∀ token ∈ separator, holds token)
    (itemsHold : ∀ item ∈ items, ∀ token ∈ item, holds token) :
    ∀ token ∈ separator.intercalate items, holds token := by
  induction items with
  | nil => simp
  | cons first rest ih =>
      rw [List.forall_mem_cons] at itemsHold
      cases rest with
      | nil => simpa using itemsHold.1
      | cons second others =>
          have following := ih itemsHold.2
          simp only [List.intercalate_cons_cons, List.mem_append]
          rintro token ((member | member) | member)
          · exact itemsHold.1 token member
          · exact separatorHolds token member
          · exact following token member

def listed (items : List (List Token)) : List Token := [Token.comma].intercalate items

theorem ofText_listed {α : Type} {items : List α} {text : α → String} {shape : α → List Token}
    (shaped : ∀ item ∈ items, ofText (text item) = shape item) :
    ofText (", ".intercalate (items.map text)) = listed (items.map shape) := by
  have separator : ofText ", " = [.comma] := rfl
  rw [ofText_intercalate rfl rfl (by decide), List.map_map, separator, listed]
  exact congrArg _ (List.map_congr_left shaped)

theorem map_eq_of_listed {α : Type} {shape : α → List Token}
    (free : ∀ item, Token.comma ∉ shape item) {items others : List α} (filled : items ≠ [])
    (otherFilled : others ≠ []) (same : listed (items.map shape) = listed (others.map shape)) :
    items.map shape = others.map shape := by
  have shapes : ∀ items : List α, items ≠ [] →
      (listed (items.map shape)).splitOn Token.comma = items.map shape := by
    intro items filled
    have itemsFree : ∀ item ∈ items.map shape, Token.comma ∉ item := by
      simpa using fun item _ => free item
    exact List.splitOn_intercalate _ itemsFree (by simpa using filled)
  rw [← shapes items filled, ← shapes others otherFilled, same]

end Token

/-- A keyword that begins a clause, and the tokens up to the next clause. -/
structure Clause where
  keyword : String
  body : List Token
  deriving DecidableEq

namespace Clause

def keywords : List String :=
  ["SELECT", "FROM", "LEFT", "INSERT", "VALUES", "UPDATE", "SET", "DELETE", "WHERE", "ORDER",
    "LIMIT", "GROUP"]

def opens : Token → Bool
  | .word text => keywords.contains text
  | _ => false

def tokens (clause : Clause) : List Token := .word clause.keyword :: clause.body

def cut : List Token → List Token × List Clause
  | [] => ([], [])
  | .word text :: rest =>
      if keywords.contains text then ([], ⟨text, (cut rest).1⟩ :: (cut rest).2)
      else (.word text :: (cut rest).1, (cut rest).2)
  | token :: rest => (token :: (cut rest).1, (cut rest).2)

@[simp] theorem opens_sign (text : String) : opens (.sign text) = false := rfl

@[simp] theorem opens_mark : opens .mark = false := rfl

@[simp] theorem opens_opening : opens .opening = false := rfl

@[simp] theorem opens_closing : opens .closing = false := rfl

@[simp] theorem opens_comma : opens .comma = false := rfl

def Free (body : List Token) : Prop := ∀ token ∈ body, opens token = false

instance (body : List Token) : Decidable (Free body) :=
  inferInstanceAs (Decidable (∀ token ∈ body, opens token = false))

@[simp] theorem free_nil : Free [] := by simp [Free]

@[simp] theorem free_cons (token : Token) (rest : List Token) :
    Free (token :: rest) ↔ opens token = false ∧ Free rest := by
  simp [Free]

@[simp] theorem free_append (left right : List Token) :
    Free (left ++ right) ↔ Free left ∧ Free right := by
  simp [Free, or_imp, forall_and]

theorem free_intercalate {separator : List Token} {items : List (List Token)}
    (separatorFree : Free separator) (itemsFree : ∀ item ∈ items, Free item) :
    Free (separator.intercalate items) :=
  Token.forall_mem_intercalate separatorFree itemsFree

theorem free_listed {α : Type} {items : List α} {shape : α → List Token}
    (free : ∀ item ∈ items, Free (shape item)) : Free (Token.listed (items.map shape)) :=
  free_intercalate (by decide) (by simpa using free)

theorem opens_of_isPlainName {name : String} (plain : Token.isPlainName name = true) :
    opens (.word name) = false := by
  have known : ∀ keyword ∈ keywords, Token.isPlainName keyword = false := by decide
  simp only [opens, List.contains_eq_mem, decide_eq_false_iff_not]
  intro member
  simp [known name member] at plain

/-- Clauses with keywords among `own`, in whose bodies no other clause begins. -/
def Among (own : List String) (clauses : List Clause) : Prop :=
  ∀ clause ∈ clauses, clause.keyword ∈ own ∧ Free clause.body

@[simp] theorem among_nil (own : List String) : Among own [] := by simp [Among]

@[simp] theorem among_cons (own : List String) (clause : Clause) (rest : List Clause) :
    Among own (clause :: rest) ↔
      (clause.keyword ∈ own ∧ Free clause.body) ∧ Among own rest := by
  simp [Among]

theorem Among.append {own others : List String} {first second : List Clause}
    (leading : Among own first) (following : Among others second) :
    Among (own ++ others) (first ++ second) := by
  intro clause member
  rcases List.mem_append.mp member with left | right
  · exact ⟨List.mem_append_left _ (leading clause left).1, (leading clause left).2⟩
  · exact ⟨List.mem_append_right _ (following clause right).1, (following clause right).2⟩

theorem cut_append {body : List Token} (free : Free body) (rest : List Token) :
    cut (body ++ rest) = (body ++ (cut rest).1, (cut rest).2) := by
  induction body with
  | nil => rfl
  | cons token others ih =>
      simp only [free_cons] at free
      cases token with
      | word text =>
          have kept : ¬keywords.contains text = true := by simpa [opens] using free.1
          simp only [List.cons_append, cut, kept, ih free.2]
          rfl
      | _ => simp [cut, ih free.2]

theorem cut_flatMap {clauses : List Clause} (among : Among keywords clauses) :
    cut (clauses.flatMap tokens) = ([], clauses) := by
  induction clauses with
  | nil => rfl
  | cons clause rest ih =>
      rw [among_cons] at among
      have opened : keywords.contains clause.keyword = true := by simpa using among.1.1
      simp only [List.flatMap_cons, tokens, List.cons_append, cut, opened,
        cut_append among.1.2, ih among.2, List.append_nil, if_true]

theorem eq_of_tokens {first second : List Clause} (among : Among keywords first)
    (otherAmong : Among keywords second)
    (same : first.flatMap tokens = second.flatMap tokens) : first = second := by
  have read := congrArg (fun whole => (cut whole).2) same
  simpa only [cut_flatMap among, cut_flatMap otherAmong] using read

structure Written (clauses : List Clause) (text : String) : Prop where
  starts : Token.startsAlone text = true
  tokens_eq : Token.ofText text = clauses.flatMap tokens

theorem Written.nil : Written [] "" := ⟨rfl, rfl⟩

theorem Written.singleton {clause : Clause} {opening : String} {heading : List Token}
    (filled : opening ≠ "") (starts : Token.startsAlone opening = true)
    (ends : Token.endsAlone opening = true) (read : Token.ofText opening = heading) {body : String}
    (tokens : clause.tokens = heading ++ Token.ofText body) :
    Written [clause] (opening ++ body) where
  starts := Token.startsAlone_append starts fun empty => absurd empty filled
  tokens_eq := by
    rw [Token.ofText_append (.inl ends), read, ← tokens, List.flatMap_singleton]

theorem Written.append {first second : List Clause} {text rest : String}
    (written : Written first text) (following : Written second rest) :
    Written (first ++ second) (text ++ rest) where
  starts := Token.startsAlone_append written.starts fun _ => following.starts
  tokens_eq := by
    rw [Token.ofText_append (.inr following.starts), written.tokens_eq, following.tokens_eq,
      List.flatMap_append]

/-- Leading clauses whose keywords no later one has can be told from the rest. -/
theorem parts_eq {own others : List String} {first second rest more : List Clause}
    (disjoint : ∀ keyword ∈ own, keyword ∉ others) (leading : Among own first)
    (otherLeading : Among own second) (following : Among others rest)
    (otherFollowing : Among others more) (same : first ++ rest = second ++ more) :
    first = second ∧ rest = more := by
  have kept : ∀ clauses, Among own clauses →
      clauses.filter (fun clause => clause.keyword ∈ own) = clauses := by
    intro clauses among
    simpa using fun clause member => (among clause member).1
  have dropped : ∀ clauses, Among others clauses →
      clauses.filter (fun clause => clause.keyword ∈ own) = [] := by
    intro clauses among
    simpa using fun clause member own => disjoint clause.keyword own (among clause member).1
  have parts := congrArg (List.filter fun clause => clause.keyword ∈ own) same
  rw [List.filter_append, List.filter_append, kept first leading, kept second otherLeading,
    dropped rest following, dropped more otherFollowing, List.append_nil, List.append_nil] at parts
  exact ⟨parts, List.append_cancel_left (parts ▸ same)⟩

end Clause

end BoundSql
