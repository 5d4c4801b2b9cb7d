import ComponentFile.Component
import ComponentFile.Proofs.Markup.Contents

/-!
# Reading a component back

The text of a component in normal form is markup again, and of that text the reader finds the three
blocks and what is declared about them.  A script and a style may be any texts without an end tag
of their own, because only that ends raw text.  The template may be any text that the reader takes
for the content of a template when it stands alone between its tags.

## Main definitions

* `Component.IsReadable` : the components whose blocks end where they are closed.
* `IsClosable` : the texts that can stand between the tags of a template.

## Main results

* `Component.elements_render` : the elements of a component in normal form.
* `Component.block_render`, `Component.ofElements_render` : its blocks and declarations.
* `Component.render_read_back` : reading undoes writing.
-/

namespace ComponentFile

open Text Markup

/-! ### The parts of the normal form -/

namespace Component

variable {c : Component} {block : Text} {tag : StartTag} {rest : Text}

/-- The attributes that declare a language. -/
def langAttributes (lang? : Option Text) : List Attribute :=
  lang?.elim [] fun lang ↦
    [⟨[' '], "lang".toList, some ⟨[], [], .quoted .double lang⟩⟩]

/-- The start tag of the template as it is read. -/
def templateTag (lang? : Option TemplateLang) : StartTag :=
  ⟨"template".toList, langAttributes (lang?.map TemplateLang.name), [], false⟩

/-- The start tag of the script as it is read. -/
def scriptTag : StartTag :=
  ⟨"script".toList, [], [], false⟩

/-- The start tag of the style as it is read. -/
def styleTag (lang? : Option StyleLang) (isScoped : Bool) : StartTag :=
  ⟨"style".toList, langAttributes (lang?.map StyleLang.name) ++
    if isScoped then [⟨[' '], "scoped".toList, none⟩] else [], [], false⟩

/-- A block between its tags. -/
def part (tag : StartTag) (block : Text) : Text :=
  tag.spelling ++ onLines block ++ closingTag tag.name

theorem isWritten_templateTag (lang? : Option TemplateLang) : (templateTag lang?).IsWritten := by
  have hparse : StartTag.parse? (templateTag lang?).spelling = some (templateTag lang?, []) := by
    obtain _ | ⟨⟨⟩⟩ := lang? <;> decide +kernel
  exact StartTag.isWritten_of_parse? hparse

theorem isWritten_scriptTag : scriptTag.IsWritten := by
  have hparse : StartTag.parse? scriptTag.spelling = some (scriptTag, []) := by decide +kernel
  exact StartTag.isWritten_of_parse? hparse

theorem isWritten_styleTag (lang? : Option StyleLang) (isScoped : Bool) :
    (styleTag lang? isScoped).IsWritten := by
  have hparse : StartTag.parse? (styleTag lang? isScoped).spelling =
      some (styleTag lang? isScoped, []) := by
    obtain _ | ⟨_ | _⟩ := lang? <;> cases isScoped <;> decide +kernel
  exact StartTag.isWritten_of_parse? hparse

theorem spelling_templateTag (c : Component) :
    (templateTag c.templateLang).spelling =
      '<' :: "template".toList ++ c.templateAttributes ++ ['>'] := by
  rw [templateAttributes]
  obtain _ | ⟨⟨⟩⟩ := c.templateLang <;> rfl

theorem spelling_scriptTag : scriptTag.spelling = '<' :: "script".toList ++ [] ++ ['>'] := rfl

theorem spelling_styleTag (c : Component) :
    (styleTag c.styleLang c.isScoped).spelling =
      '<' :: "style".toList ++ c.styleAttributes ++ ['>'] := by
  rw [styleAttributes]
  obtain _ | ⟨_ | _⟩ := c.styleLang <;> cases c.isScoped <;> rfl

theorem renderBlock_eq {name attributes block : Text} :
    renderBlock name attributes block =
      '<' :: name ++ attributes ++ ['>'] ++ onLines block ++ closingTag name ++ ['\n'] := by
  simp [renderBlock, onLines, closingTag]

/-- A component in normal form is made of its three parts. -/
theorem render_eq (c : Component) :
    c.render = part (templateTag c.templateLang) c.template ++ (['\n', '\n'] ++
      (part scriptTag c.script ++ (['\n', '\n'] ++
        (part (styleTag c.styleLang c.isScoped) c.style ++ ['\n'])))) := by
  rw [render, renderBlock_eq, renderBlock_eq, renderBlock_eq, part, part, part,
    spelling_templateTag, spelling_scriptTag, spelling_styleTag]
  simp only [List.append_assoc, List.cons_append, List.nil_append]
  rfl

/-! ### The parts are found -/

/-- A block on lines of its own has an end tag only if it has one by itself. -/
theorem hasNoEndTag_onLines {name : Text} (h : RawText.HasNoEndTag name block)
    (hname : '\n' ∉ lower name) : RawText.HasNoEndTag name (onLines block) := by
  have hnil := RawText.hasNoEndTag_nil name
  have hlast : RawText.HasNoEndTag name (block ++ ['\n']) :=
    (RawText.hasNoEndTag_append_newline_iff hname).mpr ⟨h, hnil⟩
  exact (RawText.hasNoEndTag_append_newline_iff (s := []) hname).mpr ⟨hnil, hlast⟩

theorem isWritten_onLines {name : Text} (h : RawText.HasNoEndTag name block)
    (hline : '\n' ∉ lower name) (hopen : '<' ∉ lower name) (rest : Text) :
    RawText.IsWritten name ⟨onLines block, closingTag name, rest⟩ :=
  (hasNoEndTag_onLines h hline).isWritten hopen (isEndTag_closingTag rfl rest)

theorem isFollowedBy_template {lang? : Option TemplateLang}
    (h : IsEnclosed "template".toList (onLines block)) (rest : Text) :
    (templateTag lang?).IsFollowedBy rest (onLines block) (closingTag "template".toList) :=
  .nested rfl rfl h (isEndTag_closingTag rfl _)

theorem isFollowedBy_script (h : RawText.HasNoEndTag "script".toList block) (rest : Text) :
    scriptTag.IsFollowedBy rest (onLines block) (closingTag "script".toList) :=
  .raw rfl (isWritten_onLines h (by decide) (by decide) rest)

theorem isFollowedBy_style {lang? : Option StyleLang} {isScoped : Bool}
    (h : RawText.HasNoEndTag "style".toList block) (rest : Text) :
    (styleTag lang? isScoped).IsFollowedBy rest (onLines block) (closingTag "style".toList) :=
  .raw rfl (isWritten_onLines h (by decide) (by decide) rest)

/-- A component whose blocks end where they are closed. -/
structure IsReadable (c : Component) : Prop where
  template : IsEnclosed "template".toList (onLines c.template)
  script : RawText.HasNoEndTag "script".toList c.script
  style : RawText.HasNoEndTag "style".toList c.style

/-- The text in front of the script. -/
def beforeScript (c : Component) : Text :=
  part (templateTag c.templateLang) c.template ++ ['\n', '\n']

/-- The text in front of the style. -/
def beforeStyle (c : Component) : Text :=
  c.beforeScript ++ part scriptTag c.script ++ ['\n', '\n']

/-- The template element of a component in normal form. -/
def templateElement (c : Component) : Element :=
  (templateTag c.templateLang).elementWith 0 (onLines c.template) (closingTag "template".toList)

/-- The script element of a component in normal form. -/
def scriptElement (c : Component) : Element :=
  scriptTag.elementWith (byteLength c.beforeScript) (onLines c.script) (closingTag "script".toList)

/-- The style element of a component in normal form. -/
def styleElement (c : Component) : Element :=
  (styleTag c.styleLang c.isScoped).elementWith (byteLength c.beforeStyle) (onLines c.style)
    (closingTag "style".toList)

theorem elementsAt_part_append {offset : Nat} (htag : tag.IsWritten)
    (h : tag.IsFollowedBy rest (onLines block) (closingTag tag.name)) :
    elementsAt offset none (part tag block ++ rest) =
      tag.elementWith offset (onLines block) (closingTag tag.name) ::
        elementsAt (offset + byteLength (part tag block)) none rest :=
  h.elementsAt_append htag offset

/-- The elements of a component in normal form. -/
theorem elements_render (h : c.IsReadable) :
    elements c.render = [c.templateElement, c.scriptElement, c.styleElement] := by
  have hgap (offset : Nat) (t : Text) : elementsAt offset none (['\n', '\n'] ++ t) =
      elementsAt (offset + byteLength ['\n', '\n']) none t := elementsAt_append_plain (by decide)
  have hlast (offset : Nat) : elementsAt offset none ['\n'] = [] := by
    rw [← List.append_nil ['\n'], elementsAt_append_plain (by decide), elementsAt_nil]
  rw [elements_eq_elementsAt, render_eq,
    elementsAt_part_append (isWritten_templateTag _) (isFollowedBy_template h.template _), hgap,
    elementsAt_part_append isWritten_scriptTag (isFollowedBy_script h.script _), hgap,
    elementsAt_part_append (isWritten_styleTag _ _) (isFollowedBy_style h.style _), hlast]
  have hscript : 0 + byteLength (part (templateTag c.templateLang) c.template) +
      byteLength ['\n', '\n'] = byteLength c.beforeScript := by
    rw [beforeScript, byteLength_append, Nat.zero_add]
  have hstyle : byteLength c.beforeScript + byteLength (part scriptTag c.script) +
      byteLength ['\n', '\n'] = byteLength c.beforeStyle := by
    rw [beforeStyle, byteLength_append, byteLength_append]
  rw [hscript, hstyle]
  rfl

/-! ### The blocks -/

theorem extract_part (tag : StartTag) (before rest : Text) :
    extract (before ++ part tag block ++ rest)
        (some (tag.elementWith (byteLength before) (onLines block) (closingTag tag.name))) =
      onLines block :=
  extract_elementWith before rest

theorem extract_templateElement (c : Component) :
    extract c.render (some c.templateElement) = onLines c.template := by
  rw [render_eq]
  exact extract_part (templateTag c.templateLang) [] _

theorem extract_scriptElement (c : Component) :
    extract c.render (some c.scriptElement) = onLines c.script := by
  rw [render_eq, ← List.append_assoc, ← beforeScript, ← List.append_assoc]
  exact extract_part scriptTag _ _

theorem extract_styleElement (c : Component) :
    extract c.render (some c.styleElement) = onLines c.style := by
  rw [render_eq, ← List.append_assoc, ← beforeScript, ← List.append_assoc, ← List.append_assoc,
    ← beforeStyle, ← List.append_assoc]
  exact extract_part (styleTag c.styleLang c.isScoped) _ _

theorem block_eq_of_extract {t name : Text} {stubScript : Bool}
    (h : extract t (find? (elements t) name []) = onLines block) :
    Markup.block t name [] stubScript = onLines block := by
  rw [Markup.block, h]
  rfl

theorem find?_template (h : c.IsReadable) :
    find? (elements c.render) "template".toList [] = some c.templateElement := by
  rw [elements_render h]
  rfl

theorem find?_script (h : c.IsReadable) :
    find? (elements c.render) "script".toList [] = some c.scriptElement := by
  rw [elements_render h]
  rfl

theorem find?_style (h : c.IsReadable) :
    find? (elements c.render) "style".toList [] = some c.styleElement := by
  rw [elements_render h]
  rfl

/-- The blocks of a component in normal form, each with the ends of the lines around it. -/
theorem block_render (h : c.IsReadable) (stubScript : Bool) :
    Markup.block c.render "template".toList [] stubScript = onLines c.template ∧
      Markup.block c.render "script".toList [] stubScript = onLines c.script ∧
      Markup.block c.render "style".toList [] stubScript = onLines c.style :=
  ⟨block_eq_of_extract (find?_template h ▸ c.extract_templateElement),
    block_eq_of_extract (find?_script h ▸ c.extract_scriptElement),
    block_eq_of_extract (find?_style h ▸ c.extract_styleElement)⟩

/-! ### The declarations -/

theorem templateOf_elementWith (lang? : Option TemplateLang) (offset : Nat)
    (content close : Text) :
    Languages.templateOf ((templateTag lang?).elementWith offset content close) = lang? := by
  obtain _ | ⟨⟨⟩⟩ := lang? <;> rfl

theorem styleOf_elementWith (lang? : Option StyleLang) (isScoped : Bool) (offset : Nat)
    (content close : Text) :
    Languages.styleOf ((styleTag lang? isScoped).elementWith offset content close) = lang? := by
  obtain _ | ⟨_ | _⟩ := lang? <;> cases isScoped <;> rfl

theorem hasAttribute_scoped_elementWith (lang? : Option StyleLang) (isScoped : Bool)
    (offset : Nat) (content close : Text) :
    ((styleTag lang? isScoped).elementWith offset content close).hasAttribute "scoped".toList =
      isScoped := by
  obtain _ | ⟨_ | _⟩ := lang? <;> cases isScoped <;> rfl

theorem coffeeOf_elementWith (offset : Nat) (content close : Text) :
    Languages.coffeeOf (scriptTag.elementWith offset content close) = false := rfl

/-- What a component in normal form declares on its elements. -/
theorem ofElements_render (h : c.IsReadable) :
    Languages.ofElements c.render = ⟨c.templateLang, c.styleLang, c.isScoped, false⟩ := by
  simp only [Languages.ofElements, find?_template h, find?_script h, find?_style h, Option.elim,
    templateElement, scriptElement, styleElement, templateOf_elementWith, styleOf_elementWith,
    hasAttribute_scoped_elementWith, coffeeOf_elementWith]

end Component

/-! ### Templates that are closed -/

/-- A text between the tags of a template is closed if the reader finds one element there, whose
end tag begins right behind the text. -/
def IsClosable (t : Text) : Prop :=
  (elements ("<template>".toList ++ t ++ "</template>".toList)).map
    (fun e ↦ e.endTag.map Span.start) = [some (10 + byteLength t)]

instance (t : Text) : Decidable (IsClosable t) :=
  inferInstanceAs (Decidable (_ = _))

/-- An open element keeps its name and its start tag until it is closed. -/
theorem exists_elementsFrom_eq_cons (offset : Nat) (e : Element) (inner : List Text)
    (ks : List Token) : ∃ endTag? es,
      elementsFrom offset (some ⟨e, inner⟩) ks = { e with endTag := endTag? } :: es := by
  obtain ⟨inner', h⟩ | ⟨ks₁, n, tail, ks₂, inner', rfl, h, hn, hmem⟩ :=
    runInside_cases e.name inner ks
  · exact ⟨e.endTag, [], elementsFrom_inside h⟩
  · rw [elementsFrom_append_inside h, elementsFrom_endTag_closes hn hmem]
    exact ⟨_, _, rfl⟩

/-- A text that is closed is enclosed. -/
theorem IsClosable.isEnclosed {t : Text} (h : IsClosable t) :
    IsEnclosed "template".toList t := by
  obtain ⟨e, helements, hspan⟩ := List.map_eq_singleton_iff.mp h
  obtain ⟨span, hend, hstart⟩ := Option.map_eq_some_iff.mp hspan
  have htag := Component.isWritten_templateTag none
  have hopen : elements ("<template>".toList ++ t ++ "</template>".toList) =
      elementsAt 10 (some ⟨(Component.templateTag none).element 0, []⟩)
        (t ++ "</template>".toList) := by
    rw [elements_eq_elementsAt, List.append_assoc]
    exact elementsAt_append_open htag rfl rfl
  obtain ⟨endTag?, es, hfound⟩ := exists_elementsFrom_eq_cons 10
    ((Component.templateTag none).element 0) [] (Token.ofText (t ++ "</template>".toList))
  obtain ⟨rfl, -⟩ : e = { (Component.templateTag none).element 0 with endTag := endTag? } ∧
      [] = es := by
    rw [hopen, elementsAt, hfound] at helements
    simpa [eq_comm] using helements
  obtain rfl : endTag? = some span := hend
  have hcontent := extract_append [] "<template>".toList t "</template>".toList
    (e := { (Component.templateTag none).element 0 with endTag := some span }) rfl rfl hstart
  have henclosed := isEnclosed_extract (helements ▸ List.mem_singleton_self _) rfl
    (by decide : "template".toList ∉ rawTextNames)
  rw [List.append_assoc] at henclosed
  exact hcontent ▸ henclosed

/-- Of a component in normal form the reader finds exactly the three elements, the blocks, each
with the ends of the lines around it, and the declarations, if the template is closed and neither
the script nor the style has an end tag of its own in it. -/
theorem Component.render_read_back (c : Component) (htemplate : IsClosable c.template)
    (hscript : RawText.split? "script".toList c.script = none)
    (hstyle : RawText.split? "style".toList c.style = none) :
    (elements c.render).map Element.name =
        ["template".toList, "script".toList, "style".toList] ∧
      (∀ stubScript,
        block c.render "template".toList [] stubScript = '\n' :: c.template ++ ['\n'] ∧
        block c.render "script".toList [] stubScript = '\n' :: c.script ++ ['\n'] ∧
        block c.render "style".toList [] stubScript = '\n' :: c.style ++ ['\n']) ∧
      Languages.detect c.render .parsed =
        ⟨c.templateLang, c.styleLang, c.isScoped, false⟩ := by
  have h : c.IsReadable := ⟨htemplate.isEnclosed.onLines, RawText.split?_eq_none_iff.mp hscript,
    RawText.split?_eq_none_iff.mp hstyle⟩
  refine ⟨?_, block_render h, ofElements_render h⟩
  rw [elements_render h]
  rfl

/-- A component whose template holds tags of its own name, a quoted end tag and a comment, and
whose script and style break off in the middle of an end tag. -/
def sampleComponent : Component where
  template := "<template a='</template>'><!-- </template> --></template> <p>< 1".toList
  script := "let a = '</scripts' </script-".toList
  style := "a > b { } </styl".toList
  templateLang := some .pug
  styleLang := some .scss
  isScoped := true

theorem sampleComponent_render_read_back :
    (IsClosable sampleComponent.template ∧
      RawText.split? "script".toList sampleComponent.script = none ∧
      RawText.split? "style".toList sampleComponent.style = none) ∧
    (elements sampleComponent.render).map Element.name =
      ["template".toList, "script".toList, "style".toList] ∧
    block sampleComponent.render "script".toList [] true =
      '\n' :: sampleComponent.script ++ ['\n'] ∧
    Languages.detect sampleComponent.render .parsed = ⟨some .pug, some .scss, true, false⟩ := by
  have htemplate : IsClosable sampleComponent.template := by decide +kernel
  have hscript : RawText.split? "script".toList sampleComponent.script = none := by decide +kernel
  have hstyle : RawText.split? "style".toList sampleComponent.style = none := by decide +kernel
  obtain ⟨hnames, hblocks, hdetect⟩ :=
    sampleComponent.render_read_back htemplate hscript hstyle
  exact ⟨⟨htemplate, hscript, hstyle⟩, hnames, (hblocks true).2.1, hdetect⟩

end ComponentFile
