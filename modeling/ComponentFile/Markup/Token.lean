import ComponentFile.Markup.EndTag

/-!
# Tokens

A markup text is a sequence of tokens, and each token is kept as it is written.  What the next
token is depends only on the text that is still to be read, never on the elements that are open.

## Main definitions

* `Markup.Token` : plain text, comments, declarations, tags, and elements with raw text.
* `Token.spelling` : the text of a token.
* `Token.next?` : the token at the front of a text, and the text behind it.
* `Token.ofText` : the tokens of a text.

## Main results

* `Token.spelling_append_of_next?` : reading a token loses nothing.
* `Token.flatMap_spelling_ofText` : the spellings of the tokens of a text give the text back.
-/

namespace ComponentFile.Markup

open Text

/-- The elements without content. -/
def voidNames : List Text :=
  ["area", "base", "br", "col", "embed", "hr", "img", "input", "link", "meta", "param", "source",
    "track", "wbr"].map String.toList

/-- The elements with raw text. -/
def rawTextNames : List Text :=
  ["script", "style", "textarea", "title", "noscript", "iframe", "xmp", "noembed",
    "noframes"].map String.toList

namespace StartTag

/-- Whether the tag is a whole element: it closes itself, or its element never has content. -/
def isWhole (tag : StartTag) : Bool :=
  tag.selfClosing || voidNames.contains tag.lowerName

/-- Whether raw text follows the tag. -/
def opensRawText (tag : StartTag) : Bool :=
  !tag.isWhole && rawTextNames.contains tag.lowerName

end StartTag

/-- A piece of markup as written.  An element with raw text is one piece; without an end tag its
content is the remainder of the text. -/
inductive Token where
  | plain (text : Text)
  | comment (text : Text)
  | declaration (text : Text)
  | endTag (name tail : Text)
  | startTag (tag : StartTag)
  | rawElement (tag : StartTag) (content : Text) (endTag : Option Text)
  deriving DecidableEq, Repr

namespace Token

/-- A token as it is written. -/
def spelling : Token → Text
  | plain t => t
  | comment t => t
  | declaration t => t
  | endTag name tail => '<' :: '/' :: name ++ tail
  | startTag tag => tag.spelling
  | rawElement tag content close => tag.spelling ++ content ++ close.getD []

/-- The comment whose inside begins with the text, which follows `<!--`.  A comment that is not
closed goes on to the end of the text. -/
def readComment (t : Text) : Token × Text :=
  match cut? ['-', '-', '>'] t with
  | some (inside, rest) => (comment (['<', '!', '-', '-'] ++ inside ++ ['-', '-', '>']), rest)
  | none => (comment (['<', '!', '-', '-'] ++ t), [])

/-- The declaration or instruction at the front of the text. -/
def readDeclaration (t : Text) : Token × Text :=
  (declaration (through '>' t).1, (through '>' t).2)

/-- The end tag whose name begins the text, which follows `</`.  Without a name there is no tag
but two characters of plain text. -/
def readEndTag (t : Text) : Token × Text :=
  match t.takeWhile fun c => !isNameEnd c with
  | [] => (plain ['<', '/'], t)
  | name =>
    let tail := through '>' (t.dropWhile fun c => !isNameEnd c)
    (endTag name tail.1, tail.2)

/-- The start tag, or the whole element with raw text, at the front of the text.  When the tag
does not end, the remainder of the text is plain. -/
def readStartTag (t : Text) : Token × Text :=
  match StartTag.parse? t with
  | none => (plain t, [])
  | some (tag, rest) =>
    if tag.opensRawText then
      match RawText.split? tag.lowerName rest with
      | some raw => (rawElement tag raw.content (some raw.endTag), raw.rest)
      | none => (rawElement tag rest none, [])
    else (startTag tag, rest)

/-- The token at the front of a text, and the text behind it. -/
def next? (t : Text) : Option (Token × Text) :=
  match t with
  | [] => none
  | '<' :: '!' :: '-' :: '-' :: u => some (readComment u)
  | '<' :: '!' :: _ => some (readDeclaration t)
  | '<' :: '?' :: _ => some (readDeclaration t)
  | '<' :: '/' :: u => some (readEndTag u)
  | '<' :: u =>
    if u.head?.any Char.isAlpha then some (readStartTag t) else some (plain ['<'], u)
  | _ => some (plain (t.takeWhile (· != '<')), t.dropWhile (· != '<'))

/-! ### Reading loses nothing -/

theorem spelling_append_readComment (t : Text) :
    (readComment t).1.spelling ++ (readComment t).2 = '<' :: '!' :: '-' :: '-' :: t := by
  unfold readComment
  split
  · next inside rest h => simp [spelling, eq_append_of_cut? h]
  · simp [spelling]

theorem spelling_append_readEndTag (t : Text) :
    (readEndTag t).1.spelling ++ (readEndTag t).2 = '<' :: '/' :: t := by
  unfold readEndTag
  split
  · rfl
  · simp only [spelling, List.append_assoc, List.cons_append, through_append,
      List.takeWhile_append_dropWhile]

theorem spelling_append_readStartTag (t : Text) :
    (readStartTag t).1.spelling ++ (readStartTag t).2 = t := by
  unfold readStartTag
  split
  · simp [spelling]
  · next tag rest h =>
    have htag := StartTag.spelling_append_of_parse? h
    split
    · split
      · next raw hraw =>
        have happ := RawText.append_of_split? hraw
        simp only [List.append_assoc] at happ
        simp only [spelling, Option.getD_some, List.append_assoc, happ, htag]
      · simpa [spelling] using htag
    · exact htag

theorem spelling_append_readDeclaration (t : Text) :
    (readDeclaration t).1.spelling ++ (readDeclaration t).2 = t :=
  through_append '>' t

/-- Reading a token loses nothing. -/
theorem spelling_append_of_next? {t rest : Text} {token : Token}
    (h : next? t = some (token, rest)) : token.spelling ++ rest = t := by
  unfold next? at h
  split at h
  · cases h
  · next u => simpa only [Option.some.inj h] using spelling_append_readComment u
  · next u _ =>
    simpa only [Option.some.inj h] using spelling_append_readDeclaration ('<' :: '!' :: u)
  · next u => simpa only [Option.some.inj h] using spelling_append_readDeclaration ('<' :: '?' :: u)
  · next u => simpa only [Option.some.inj h] using spelling_append_readEndTag u
  · next u _ _ _ _ =>
    split at h
    · simpa only [Option.some.inj h] using spelling_append_readStartTag ('<' :: u)
    · cases h; rfl
  · cases h; exact List.takeWhile_append_dropWhile

/-! ### Reading goes forward -/

theorem spelling_readComment_ne_nil (t : Text) : (readComment t).1.spelling ≠ [] := by
  unfold readComment
  split <;> simp [spelling]

theorem spelling_readEndTag_ne_nil (t : Text) : (readEndTag t).1.spelling ≠ [] := by
  unfold readEndTag
  split <;> simp [spelling]

theorem spelling_readStartTag_ne_nil {t : Text} (ht : t ≠ []) :
    (readStartTag t).1.spelling ≠ [] := by
  unfold readStartTag
  split
  · exact ht
  · next tag rest _ =>
    have htag : tag.spelling ≠ [] := List.length_pos_iff.mp tag.length_spelling_pos
    split
    · split <;> simp [spelling, htag]
    · exact htag

theorem spelling_readDeclaration_ne_nil (c : Char) (t : Text) :
    (readDeclaration (c :: t)).1.spelling ≠ [] := by
  by_cases hc : c = '>' <;> simp [readDeclaration, spelling, through, hc]

/-- A token is never empty. -/
theorem spelling_ne_nil_of_next? {t rest : Text} {token : Token}
    (h : next? t = some (token, rest)) : token.spelling ≠ [] := by
  unfold next? at h
  split at h
  · cases h
  · next u => simpa only [Option.some.inj h] using spelling_readComment_ne_nil u
  · next u _ => simpa only [Option.some.inj h] using spelling_readDeclaration_ne_nil '<' ('!' :: u)
  · next u => simpa only [Option.some.inj h] using spelling_readDeclaration_ne_nil '<' ('?' :: u)
  · next u => simpa only [Option.some.inj h] using spelling_readEndTag_ne_nil u
  · next u _ _ _ _ =>
    split at h
    · simpa only [Option.some.inj h] using spelling_readStartTag_ne_nil (List.cons_ne_nil '<' u)
    · cases h; exact List.cons_ne_nil _ _
  · next hnil _ _ _ _ hlt =>
    cases h
    cases t with
    | nil => exact absurd rfl hnil
    | cons c t =>
      have hc : c ≠ '<' := fun e => hlt t (by rw [e])
      simp [spelling, hc]

/-- Behind a token the text is shorter. -/
theorem length_lt_of_next? {t rest : Text} {token : Token}
    (h : next? t = some (token, rest)) : rest.length < t.length := by
  have happ := congrArg List.length (spelling_append_of_next? h)
  have hpos := List.length_pos_iff.mpr (spelling_ne_nil_of_next? h)
  simp only [List.length_append] at happ
  omega

/-- The tokens of a text. -/
def ofText (t : Text) : List Token :=
  match _h : next? t with
  | none => []
  | some (token, rest) => token :: ofText rest
termination_by t.length
decreasing_by exact length_lt_of_next? _h

/-- There is a token in front of every text but the empty one. -/
theorem next?_eq_none_iff {t : Text} : next? t = none ↔ t = [] := by
  constructor
  · intro h
    unfold next? at h
    split at h
    · rfl
    · cases h
    · cases h
    · cases h
    · cases h
    · split at h <;> cases h
    · cases h
  · rintro rfl; rfl

/-- The spellings of the tokens of a text give the text back. -/
theorem flatMap_spelling_ofText (t : Text) : (ofText t).flatMap spelling = t := by
  fun_induction ofText t with
  | case1 t h => exact (next?_eq_none_iff.mp h).symm
  | case2 t token rest h ih => rw [List.flatMap_cons, ih, spelling_append_of_next? h]

end Token

end ComponentFile.Markup
