import ComponentFile.Dict

/-!
# Start tags

A start tag is kept exactly as it is written: every space, every stray slash, the spelling of
names and the way each attribute value is quoted.  Its meaning, a lower-case name and a dictionary
of attributes, is computed from that, and so is its place in the text, because the spelling of a
tag that was read is the part of the text that it was read from.

## Main definitions

* `Markup.Attribute`, `Markup.StartTag` : a tag as written.
* `StartTag.spelling` : the text of a tag.
* `StartTag.parse?` : the tag at the front of a text, and the text behind it.
* `StartTag.dict` : the attributes by lower-case name.

## Main results

* `StartTag.spelling_append_of_parse?` : reading a start tag loses nothing.
-/

namespace ComponentFile.Markup

open Text

/-- The characters that end the name of a tag: white space, `/` and `>`. -/
def isNameEnd (c : Char) : Bool :=
  isSpace c || c == '/' || c == '>'

/-! ### Values -/

/-- The two quotation marks. -/
inductive Quote where
  | double
  | single
  deriving DecidableEq, Repr

/-- The character of a quotation mark. -/
def Quote.mark : Quote → Char
  | double => '"'
  | single => '\''

/-- The quotation mark that a character is. -/
def Quote.ofChar? (c : Char) : Option Quote :=
  if c = '"' then some .double else if c = '\'' then some .single else none

theorem Quote.mark_of_ofChar? {c : Char} {q : Quote} (h : ofChar? c = some q) : q.mark = c := by
  unfold ofChar? at h
  split at h
  · cases h; simp_all [mark]
  · split at h
    · cases h; simp_all [mark]
    · cases h

/-- An attribute value as written. -/
inductive Value where
  | bare (text : Text)
  | quoted (quote : Quote) (text : Text)
  deriving DecidableEq, Repr

namespace Value

/-- The text that a value stands for. -/
def text : Value → Text
  | bare t => t
  | quoted _ t => t

/-- A value as it is written. -/
def spelling : Value → Text
  | bare t => t
  | quoted q t => q.mark :: t ++ [q.mark]

/-- Whether a character belongs to a value without quotation marks. -/
def isBareChar (c : Char) : Bool :=
  !isSpace c && c != '>'

/-- The value at the front of a text.  There is none at the end of the text, and none when a
quotation mark is not answered. -/
def read? : Text → Option (Value × Text)
  | [] => none
  | c :: t =>
    match Quote.ofChar? c with
    | some q => (cut? [q.mark] t).map fun parts => (quoted q parts.1, parts.2)
    | none => some (bare ((c :: t).takeWhile isBareChar), (c :: t).dropWhile isBareChar)

theorem spelling_append_of_read? {t rest : Text} {v : Value} (h : read? t = some (v, rest)) :
    v.spelling ++ rest = t := by
  cases t with
  | nil => simp [read?] at h
  | cons c t =>
    cases hq : Quote.ofChar? c with
    | none =>
      simp only [read?, hq, Option.some.injEq, Prod.mk.injEq] at h
      obtain ⟨rfl, rfl⟩ := h
      exact List.takeWhile_append_dropWhile
    | some q =>
      simp only [read?, hq, Option.map_eq_some_iff, Prod.mk.injEq] at h
      obtain ⟨parts, hcut, rfl, rfl⟩ := h
      have hmark := Quote.mark_of_ofChar? hq
      have happ := eq_append_of_cut? hcut
      simp [spelling, hmark ▸ happ, hmark]

end Value

/-! ### Attributes -/

/-- An equals sign and a value, with the space around the sign. -/
structure Assignment where
  before : Text
  after : Text
  value : Value
  deriving DecidableEq, Repr

/-- An assignment as it is written. -/
def Assignment.spelling (a : Assignment) : Text :=
  a.before ++ '=' :: a.after ++ a.value.spelling

/-- The assignment at the front of a text, if there is one.  The whole result is `none` when the
text ends before the value does. -/
def Assignment.read? (t : Text) : Option (Option Assignment × Text) :=
  match t.dropWhile isSpace with
  | '=' :: u =>
    (Value.read? (u.dropWhile isSpace)).map fun found =>
      (some ⟨t.takeWhile isSpace, u.takeWhile isSpace, found.1⟩, found.2)
  | _ => some (none, t)

theorem Assignment.spelling_append_of_read? {t rest : Text} {a : Option Assignment}
    (h : read? t = some (a, rest)) : (a.elim [] spelling) ++ rest = t := by
  unfold read? at h
  split at h
  · next u hu =>
    simp only [Option.map_eq_some_iff, Prod.mk.injEq] at h
    obtain ⟨found, hfound, rfl, rfl⟩ := h
    have hval := Value.spelling_append_of_read? hfound
    have htext : t.takeWhile isSpace ++ '=' :: u = t := by
      rw [← hu]; exact List.takeWhile_append_dropWhile
    simp only [Option.elim, spelling, List.append_assoc, List.cons_append, hval,
      List.takeWhile_append_dropWhile]
    exact htext
  · simp only [Option.some.injEq, Prod.mk.injEq] at h
    obtain ⟨rfl, rfl⟩ := h
    rfl

/-- An attribute as written, with everything since the end of the part before it. -/
structure Attribute where
  gap : Text
  name : Text
  assignment : Option Assignment
  deriving DecidableEq, Repr

namespace Attribute

/-- The value of an attribute; it is empty when nothing is assigned. -/
def valueText (a : Attribute) : Text :=
  a.assignment.elim [] fun assignment => assignment.value.text

/-- An attribute as it is written. -/
def spelling (a : Attribute) : Text :=
  a.gap ++ a.name ++ a.assignment.elim [] Assignment.spelling

/-- Whether a character belongs to an attribute name. -/
def isNameChar (c : Char) : Bool :=
  !isNameEnd c && c != '='

/-- The attribute name at the front of a text.  A character that cannot belong to a name, such as
a leading equals sign, is a name of its own. -/
def splitName (t : Text) : Text × Text :=
  match t.takeWhile isNameChar with
  | [] => (t.take 1, t.drop 1)
  | name => (name, t.dropWhile isNameChar)

@[simp] theorem splitName_append (t : Text) : (splitName t).1 ++ (splitName t).2 = t := by
  unfold splitName
  split
  · exact List.take_append_drop 1 t
  · next h => simp

theorem splitName_ne_nil {t : Text} (h : t ≠ []) : (splitName t).1 ≠ [] := by
  unfold splitName
  split
  · cases t with
    | nil => exact absurd rfl h
    | cons c t => simp
  · next hne => simpa using hne

/-- The attribute at the front of a text, behind the gap `gap`. -/
def read? (gap t : Text) : Option (Attribute × Text) :=
  (Assignment.read? (splitName t).2).map fun found =>
    (⟨gap, (splitName t).1, found.1⟩, found.2)

theorem spelling_append_of_read? {gap t rest : Text} {a : Attribute}
    (h : read? gap t = some (a, rest)) : a.spelling ++ rest = gap ++ t := by
  simp only [read?, Option.map_eq_some_iff, Prod.mk.injEq] at h
  obtain ⟨found, hfound, rfl, rfl⟩ := h
  have happ := Assignment.spelling_append_of_read? hfound
  simp only [spelling, List.append_assoc, happ, splitName_append]

theorem length_lt_of_read? {gap t rest : Text} {a : Attribute}
    (h : read? gap t = some (a, rest)) (hne : t ≠ []) : rest.length < t.length := by
  simp only [read?, Option.map_eq_some_iff, Prod.mk.injEq] at h
  obtain ⟨found, hfound, rfl, rfl⟩ := h
  have happ := congrArg List.length (Assignment.spelling_append_of_read? hfound)
  have hname := congrArg List.length (splitName_append t)
  have hpos := List.length_pos_iff.mpr (splitName_ne_nil hne)
  simp only [List.length_append] at happ hname
  omega

end Attribute

/-! ### Start tags -/

/-- Split the gap off the front of the inside of a tag: white space, and slashes that do not stand
before `>`. -/
def splitGap : Text → Text × Text
  | [] => ([], [])
  | c :: t =>
    if isSpace c || (c == '/' && t.head? != some '>') then
      let (gap, rest) := splitGap t
      (c :: gap, rest)
    else ([], c :: t)

@[simp] theorem splitGap_append (t : Text) : (splitGap t).1 ++ (splitGap t).2 = t := by
  induction t with
  | nil => rfl
  | cons c t ih =>
    rw [splitGap]
    split
    · simpa using ih
    · rfl

/-- A start tag as written: its name, its attributes, the gap before its end, and whether it ends
with a slash. -/
structure StartTag where
  name : Text
  attributes : List Attribute
  gap : Text
  selfClosing : Bool
  deriving DecidableEq, Repr

namespace StartTag

/-- The part of a start tag behind its last attribute. -/
def ending (gap : Text) (selfClosing : Bool) : Text :=
  gap ++ if selfClosing then ['/', '>'] else ['>']

/-- A start tag as it is written. -/
def spelling (tag : StartTag) : Text :=
  '<' :: tag.name ++ (tag.attributes.flatMap Attribute.spelling ++
    ending tag.gap tag.selfClosing)

/-- The part of a start tag behind its name: the attributes, the gap before the end and whether
the tag closes itself.  There is none when the text ends inside the tag. -/
def readBody? (t : Text) : Option ((List Attribute × Text × Bool) × Text) :=
  match _hgap : splitGap t with
  | (_, []) => none
  | (gap, '>' :: rest) => some (([], gap, false), rest)
  | (gap, '/' :: '>' :: rest) => some (([], gap, true), rest)
  | (gap, c :: u) =>
    match _hattr : Attribute.read? gap (c :: u) with
    | none => none
    | some (first, rest) =>
      (readBody? rest).map fun found =>
        ((first :: found.1.1, found.1.2), found.2)
termination_by t.length
decreasing_by
  have hlt := Attribute.length_lt_of_read? _hattr (List.cons_ne_nil c u)
  have happ := congrArg List.length (splitGap_append t)
  simp only [_hgap, List.length_append] at happ
  omega

theorem spelling_append_of_readBody? {t rest : Text} {body : List Attribute × Text × Bool}
    (h : readBody? t = some (body, rest)) :
    body.1.flatMap Attribute.spelling ++ ending body.2.1 body.2.2 ++ rest = t := by
  fun_induction readBody? t generalizing body rest with
  | case1 => simp at h
  | case2 t gap u hgap =>
    simp only [Option.some.injEq, Prod.mk.injEq] at h
    obtain ⟨rfl, rfl⟩ := h
    simpa [ending, hgap] using splitGap_append t
  | case3 t gap u hgap =>
    simp only [Option.some.injEq, Prod.mk.injEq] at h
    obtain ⟨rfl, rfl⟩ := h
    simpa [ending, hgap] using splitGap_append t
  | case4 => simp at h
  | case5 t gap c u _ _ hgap first after hattr ih =>
    simp only [Option.map_eq_some_iff, Prod.mk.injEq] at h
    obtain ⟨found, hfound, rfl, rfl⟩ := h
    have hrest := ih hfound
    have hread := Attribute.spelling_append_of_read? hattr
    have happ := splitGap_append t
    rw [hgap] at happ
    simp only [List.flatMap_cons, List.append_assoc] at hrest ⊢
    rw [hrest, hread, happ]

/-- The start tag at the front of a text, and the text behind it.  A start tag begins with `<` and
an ASCII letter, and it has to end within the text. -/
def parse? : Text → Option (StartTag × Text)
  | '<' :: c :: t =>
    if c.isAlpha then
      (readBody? ((c :: t).dropWhile fun d => !isNameEnd d)).map fun found =>
        (⟨(c :: t).takeWhile fun d => !isNameEnd d, found.1.1, found.1.2.1, found.1.2.2⟩, found.2)
    else none
  | _ => none

/-- Reading a start tag loses nothing. -/
theorem spelling_append_of_parse? {t rest : Text} {tag : StartTag}
    (h : parse? t = some (tag, rest)) : tag.spelling ++ rest = t := by
  unfold parse? at h
  split at h
  · next c u =>
    split at h
    · simp only [Option.map_eq_some_iff, Prod.mk.injEq] at h
      obtain ⟨found, hfound, rfl, rfl⟩ := h
      have hbody := spelling_append_of_readBody? hfound
      simp only [spelling, List.append_assoc, List.cons_append] at hbody ⊢
      rw [hbody, List.takeWhile_append_dropWhile]
    · cases h
  · cases h

/-- The name that a tag is found by. -/
def lowerName (tag : StartTag) : Text :=
  lower tag.name

/-- The attributes by lower-case name, in the order in which the names first occur.  Of several
attributes with one name the first counts. -/
def dict (tag : StartTag) : Dict Text :=
  tag.attributes.foldl (fun d a => d.insertNew (lower a.name) a.valueText) ∅

/-- The spelling of a start tag is not empty. -/
theorem length_spelling_pos (tag : StartTag) : 0 < tag.spelling.length := by
  simp [spelling]

end StartTag

end ComponentFile.Markup
