import Sitemap.Proofs.Xml.Tags

/-!
# What content is read as

* `Xml.Node.markup`, `Xml.Node.plainText?` : the nodes that are no text, and the text of nodes that
  are nothing else;
* `Xml.Reads` : a text is read as nodes, wherever it stands inside an element;
* `Xml.Reads.text`, `Reads.reference`, `Reads.element` : for the parts that content is made of;
* `Xml.Reads.append` : one after the other;
* `Xml.Reads.root` : the content of the last element that is open, with its end tag.
-/

namespace Sitemap.Xml

/-! ## Nodes -/

namespace Node

def markup (nodes : List Node) : List Node :=
  nodes.filter fun
    | text _ => false
    | _ => true

def plainText? : List Node → Option (List Char)
  | [] => some []
  | text cs :: rest => (plainText? rest).map (cs ++ ·)
  | _ => none

@[simp]
theorem markup_nil : markup [] = [] := rfl

@[simp]
theorem markup_text (cs : List Char) (nodes : List Node) :
    markup (text cs :: nodes) = markup nodes := rfl

@[simp]
theorem markup_element (name : Name) (inner nodes : List Node) :
    markup (element name inner :: nodes) = element name inner :: markup nodes := rfl

@[simp]
theorem markup_append (nodes others : List Node) :
    markup (nodes ++ others) = markup nodes ++ markup others := List.filter_append _ _

theorem children_markup (name : Name) (nodes : List Node) :
    children name (markup nodes) = children name nodes := by
  unfold children markup
  rw [List.filterMap_filter]
  congr 1
  funext node
  cases node <;> rfl

theorem leadingText_of_plainText? {nodes : List Node} {cs : List Char}
    (h : plainText? nodes = some cs) : leadingText nodes = cs := by
  induction nodes generalizing cs with
  | nil =>
    cases h
    rfl
  | cons node nodes ih =>
    cases node with
    | text ds =>
      obtain ⟨rest, hrest, rfl⟩ := Option.map_eq_some_iff.1 h
      rw [leadingText, ih hrest]
    | element _ _ => cases h
    | aside => cases h

theorem plainText?_append {nodes others : List Node} {cs ds : List Char}
    (hnodes : plainText? nodes = some cs) (hothers : plainText? others = some ds) :
    plainText? (nodes ++ others) = some (cs ++ ds) := by
  induction nodes generalizing cs with
  | nil =>
    cases hnodes
    exact hothers
  | cons node nodes ih =>
    cases node with
    | text es =>
      obtain ⟨rest, hrest, rfl⟩ := Option.map_eq_some_iff.1 hnodes
      rw [List.cons_append, plainText?, ih hrest, Option.map_some, List.append_assoc]
    | element _ _ => cases hnodes
    | aside => cases hnodes

end Node

/-! ## Reading -/

/-- Reads the content of an element in a document without a document type. -/
abbrev readPlain? : (fuel : Nat) → Frame → List Frame → List Remark → List Char → Option Content :=
  readContent? {} (expandEntity? {} 1) false 0

/-- Adds nodes in order. -/
def Frame.pushAll (f : Frame) (nodes : List Node) : Frame :=
  { f with nodes := nodes.reverse ++ f.nodes }

@[simp]
theorem Frame.pushAll_append (f : Frame) (nodes others : List Node) :
    (f.pushAll nodes).pushAll others = f.pushAll (nodes ++ others) := by
  simp [Frame.pushAll]

/-- Markup or a reference stands next. -/
def BeginsMarkup (cs : List Char) : Prop := ∃ c rest, cs = c :: rest ∧ (c = '<' ∨ c = '&')

/-- A text is read as nodes of the element that is open, without a remark. This holds in a given
scope, before what satisfies `P`, and if `height` more elements may be open at once. -/
def Reads (scope : Scope) (height : Nat) (P : List Char → Prop) (text : List Char)
    (nodes : List Node) : Prop :=
  ∃ steps ≤ text.length, ∀ fuel (top : Frame) below remarks rest, top.scope = scope →
    below.length + height < maxDepth → P rest →
      readPlain? (fuel + steps) top below remarks (text ++ rest) =
        readPlain? fuel (top.pushAll nodes) below remarks rest

section
variable {scope : Scope} {height : Nat} {P Q : List Char → Prop} {cs ds : List Char}
  {nodes others : List Node}

theorem Reads.nil : Reads scope height P [] [] :=
  ⟨0, Nat.le_refl 0, fun _ _ _ _ _ _ _ _ => rfl⟩

theorem Reads.append (h : Reads scope height P cs nodes) (hnext : Reads scope height Q ds others)
    (hPQ : ∀ rest, Q rest → P (ds ++ rest)) :
    Reads scope height Q (cs ++ ds) (nodes ++ others) := by
  obtain ⟨steps, hsteps, hread⟩ := h
  obtain ⟨steps', hsteps', hread'⟩ := hnext
  refine ⟨steps' + steps, ?_, fun fuel top below remarks rest hscope hheight hrest => ?_⟩
  · rw [List.length_append]
    omega
  · rw [List.append_assoc, ← Nat.add_assoc, hread _ _ _ _ _ hscope hheight (hPQ rest hrest),
      hread' _ (top.pushAll nodes) _ _ _ hscope hheight hrest, Frame.pushAll_append]

theorem Reads.append_any (h : Reads scope height (fun _ => True) cs nodes)
    (hnext : Reads scope height Q ds others) : Reads scope height Q (cs ++ ds) (nodes ++ others) :=
  h.append hnext fun _ _ => trivial

/-! ### Text -/

/-- A character that is neither markup nor the last of the mark that ends a section. -/
def IsPlain (c : Char) : Prop := c ≠ '<' ∧ c ≠ '>' ∧ c ≠ '&'

instance (c : Char) : Decidable (IsPlain c) := by
  unfold IsPlain
  infer_instance

/-- Plain text is read up to the next markup. -/
theorem readText?_append (h : ∀ c ∈ cs, IsPlain c) {rest : List Char} (hrest : BeginsMarkup rest) :
    readText? (cs ++ rest) = some (cs, rest) := by
  induction cs with
  | nil =>
    obtain ⟨c, rest, rfl, hc⟩ := hrest
    rcases hc with rfl | rfl <;> rfl
  | cons c cs ih =>
    obtain ⟨hc, hcs⟩ := List.forall_mem_cons.1 h
    have hmark : ∀ tail, cs ++ rest ≠ ']' :: '>' :: tail := by
      intro tail heq
      obtain ⟨d, rest, rfl, hd⟩ := hrest
      rcases List.append_eq_cons_iff.1 heq with ⟨-, hrest⟩ | ⟨cs', rfl, htail⟩
      · cases hrest
        simp at hd
      · rcases List.append_eq_cons_iff.1 htail.symm with ⟨-, hrest⟩ | ⟨cs', rfl, -⟩
        · cases hrest
          simp at hd
        · exact (hcs '>' (by simp)).2.1 rfl
    rw [List.cons_append, readText?]
    · rw [if_neg (by simp [hc.1, hc.2.2]), ih hcs]
      rfl
    · exact fun tail _ => hmark tail

theorem Reads.text (hne : cs ≠ []) (h : ∀ c ∈ cs, IsPlain c) :
    Reads scope height BeginsMarkup cs [.text cs] := by
  obtain ⟨c, cs, rfl⟩ := List.exists_cons_of_ne_nil hne
  refine ⟨1, by simp, fun fuel top below remarks rest _ _ hrest => ?_⟩
  have hread := readText?_append h hrest
  have hc := h c List.mem_cons_self
  rw [List.cons_append] at hread ⊢
  rw [readPlain?, readContent?]
  · rw [hread]
    rfl
  all_goals
    intros
    simp_all [IsPlain]

/-! ### References and elements -/

theorem Reads.reference {c : Char} (h : isName cs) (hc : predefined? cs = some c) :
    Reads scope height P ('&' :: cs ++ [';']) [.text [c]] := by
  refine ⟨1, by simp, fun fuel top below remarks rest _ _ _ => ?_⟩
  have hread : entityReference? (cs ++ ';' :: rest) = some (cs, rest) := by
    rw [entityReference?, readName?_append h (by decide)]
    rfl
  rw [List.append_assoc, List.cons_append, List.singleton_append, readPlain?, readContent?]
  · rw [hread]
    simp only [Option.bind_eq_bind, Option.bind_some, hc]
    rfl
  · exact fun tail heq => head_ne_of_isName h (by decide) _ tail heq

def tagged (name cs : List Char) : List Char :=
  '<' :: name ++ '>' :: cs ++ '<' :: '/' :: name ++ ['>']

theorem readPlain?_start {uri : String} (hname : IsLocalName cs) {fuel : Nat} {top : Frame}
    (hscope : lookup? top.scope [] = some uri) (huri : uri ≠ "") {below : List Frame}
    (hdepth : below.length + 1 < maxDepth) (remarks : List Remark) (rest : List Char) :
    readPlain? (fuel + 1) top below remarks ('<' :: (cs ++ '>' :: rest)) =
      readPlain? fuel ⟨cs, ⟨some uri, String.ofList cs⟩, top.scope, []⟩ (top :: below) remarks
        rest := by
  have hdepth' : ¬ maxDepth ≤ 0 + below.length + 1 := by omega
  rw [readPlain?, readContent?]
  · simp only [if_neg hdepth', readStartTag?_plain hname.1, resolve?_plain hname hscope huri,
      Option.bind_eq_bind, Option.bind_some, List.append_nil, Bool.false_eq_true, if_false]
  all_goals exact fun tail heq => head_ne_of_isName hname.1 (by decide) _ tail heq

theorem readPlain?_end (fuel : Nat) (top next : Frame) (below : List Frame) (remarks : List Remark)
    (rest : List Char) :
    readPlain? (fuel + 1) top (next :: below) remarks ('<' :: '/' :: (top.written ++ '>' :: rest)) =
      readPlain? fuel (next.push top.close) below remarks rest := by
  rw [readPlain?, readContent?, dropText?_append]
  rfl

theorem readPlain?_last (fuel : Nat) (top : Frame) (remarks : List Remark) (rest : List Char) :
    readPlain? (fuel + 1) top [] remarks ('<' :: '/' :: (top.written ++ '>' :: rest)) =
      some ⟨[top.close], remarks, rest⟩ := by
  rw [readPlain?, readContent?, dropText?_append]
  rfl

/-- An element is one node. -/
theorem Reads.element {name : List Char} {uri : String} (hname : IsLocalName name)
    (hscope : lookup? scope [] = some uri) (huri : uri ≠ "")
    (h : Reads scope height BeginsMarkup cs nodes) :
    Reads scope (height + 1) P (tagged name cs)
      [.element ⟨some uri, String.ofList name⟩ nodes] := by
  obtain ⟨steps, hsteps, hread⟩ := h
  refine ⟨1 + steps + 1, ?_, fun fuel top below remarks rest hscope' hheight _ => ?_⟩
  · simp only [tagged, List.length_append, List.length_cons, List.length_nil]
    omega
  have hshape : tagged name cs ++ rest =
      '<' :: (name ++ '>' :: (cs ++ '<' :: '/' :: (name ++ '>' :: rest))) := by
    simp [tagged]
  subst hscope'
  rw [hshape, ← Nat.add_assoc, ← Nat.add_assoc,
    readPlain?_start hname hscope huri (by omega)]
  let inner : Frame := ⟨name, ⟨some uri, String.ofList name⟩, top.scope, []⟩
  have hinner := hread (fuel + 1) inner (top :: below) remarks
    ('<' :: '/' :: (name ++ '>' :: rest)) rfl (by rw [List.length_cons]; omega)
    ⟨'<', _, rfl, .inl rfl⟩
  have hclose : (inner.pushAll nodes).close = .element ⟨some uri, String.ofList name⟩ nodes := by
    simp [inner, Frame.pushAll, Frame.close]
  have hend := readPlain?_end fuel (inner.pushAll nodes) top below remarks rest
  rw [hclose] at hend
  exact hinner.trans hend

theorem Reads.root (h : Reads scope height BeginsMarkup cs nodes) (hheight : height < maxDepth)
    (top : Frame) (hscope : top.scope = scope) {fuel : Nat} (hfuel : cs.length < fuel)
    (remarks : List Remark) (rest : List Char) :
    readPlain? fuel top [] remarks (cs ++ '<' :: '/' :: (top.written ++ '>' :: rest)) =
      some ⟨[(top.pushAll nodes).close], remarks, rest⟩ := by
  obtain ⟨steps, hsteps, hread⟩ := h
  obtain ⟨fuel, rfl⟩ : ∃ k, fuel = k + 1 + steps := ⟨fuel - 1 - steps, by omega⟩
  have hdepth : ([] : List Frame).length + height < maxDepth := by
    rw [List.length_nil]
    omega
  rw [hread (fuel + 1) top [] remarks _ hscope hdepth ⟨'<', _, rfl, .inl rfl⟩]
  exact readPlain?_last fuel (top.pushAll nodes) remarks rest

/-- An element is read from its start tag to its end tag. -/
theorem readElement?_eq {tag : StartTag} {name : Name} {more rest : List Char}
    (htag : readStartTag? {} more =
      some (tag, [], cs ++ '<' :: '/' :: (tag.written ++ '>' :: rest)))
    (hempty : tag.empty = false) (hresolve : tag.resolve? {} [] = some (name, scope, []))
    (h : Reads scope height BeginsMarkup cs nodes) (hheight : height < maxDepth) :
    readElement? {} ('<' :: more) = some ⟨[.element name nodes], [], rest⟩ := by
  have hfuel : cs.length < (cs ++ '<' :: '/' :: (tag.written ++ '>' :: rest)).length + 1 := by
    rw [List.length_append]
    omega
  have hroot := h.root hheight ⟨tag.written, name, scope, []⟩ rfl hfuel [] rest
  rw [readElement?, htag]
  simp only [Option.bind_eq_bind, Option.bind_some, hresolve, hempty, Bool.false_eq_true, if_false,
    List.append_nil]
  refine hroot.trans ?_
  simp [Frame.pushAll, Frame.close]

end

end Sitemap.Xml
