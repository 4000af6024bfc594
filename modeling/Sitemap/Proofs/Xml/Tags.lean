import Sitemap.Xml.Content

/-!
# Names, attributes and start tags are read back

* `Xml.isName`, `readName?_append` : a name is read up to what cannot be part of it;
* `Xml.readAttributes?_attribute` : an attribute of plain text is read before the others;
* `Xml.readStartTag?_plain`, `resolve?_plain` : the start tag of an element without attributes.
-/

namespace Sitemap.Xml

section
variable {scope : Scope} {cs : List Char}

/-! ## Names -/

theorem dropText?_append (cs rest : List Char) : dropText? cs (cs ++ rest) = some rest := by
  induction cs with
  | nil => rfl
  | cons c cs ih => rw [List.cons_append, dropText?, if_pos rfl, ih]

def isName (name : List Char) : Bool := name.head?.any isNameStart && name.all isNameChar

theorem readName?_append (h : isName cs) {c : Char} (hc : isNameChar c = false) (rest : List Char) :
    readName? (cs ++ c :: rest) = some (cs, c :: rest) := by
  unfold isName at h
  cases cs with
  | nil => cases h
  | cons d cs =>
    simp only [List.head?_cons, Option.any_some, List.all_cons, Bool.and_eq_true,
      List.all_eq_true] at h
    obtain ⟨hstart, -, hcs⟩ := h
    rw [List.cons_append, readName?, if_pos hstart, List.takeWhile_append_of_pos hcs,
      List.dropWhile_append_of_pos hcs, List.takeWhile_cons_of_neg (by simp [hc]),
      List.dropWhile_cons_of_neg (by simp [hc]), List.append_nil]

/-- A name does not begin like other markup. -/
theorem head_ne_of_isName (h : isName cs) {c : Char} (hc : isNameStart c = false)
    (rest tail : List Char) : cs ++ rest ≠ c :: tail := by
  unfold isName at h
  cases cs with
  | nil => cases h
  | cons d cs =>
    rintro heq
    obtain ⟨rfl, -⟩ := List.cons.inj heq
    simp [hc] at h

/-- A name without a prefix. -/
def IsLocalName (name : List Char) : Prop :=
  isName name ∧ splitQualified? name = some (none, name)

instance (name : List Char) : Decidable (IsLocalName name) := by
  unfold IsLocalName
  infer_instance

/-! ## Attributes -/

theorem readDelimited?_quote (h : '"' ∉ cs) (rest : List Char) :
    readDelimited? ['"'] (cs ++ '"' :: rest) = some (cs, rest) := by
  induction cs with
  | nil => rfl
  | cons c cs ih =>
    rw [List.mem_cons, not_or] at h
    rw [List.cons_append, readDelimited?, dropText?, if_neg h.1, ih h.2]
    rfl

theorem skipSpace_append {pad : List Char} (hpad : pad.all isSpace) {c : Char}
    (hc : isSpace c = false) (rest : List Char) : skipSpace (pad ++ c :: rest) = c :: rest := by
  rw [skipSpace, List.dropWhile_append_of_pos (List.all_eq_true.1 hpad),
    List.dropWhile_cons_of_neg (by simp [hc])]

theorem isSpace_of_isNameStart {c : Char} (h : isNameStart c) : isSpace c = false := by
  unfold isSpace
  simp only [Bool.or_eq_false_iff, beq_eq_false_iff_ne]
  refine ⟨⟨⟨?_, ?_⟩, ?_⟩, ?_⟩ <;> rintro rfl <;> cases h

def IsValueChar (c : Char) : Prop := c ≠ '<' ∧ c ≠ '&' ∧ c ≠ '"' ∧ (isSpace c = true → c = ' ')

instance (c : Char) : Decidable (IsValueChar c) := by
  unfold IsValueChar
  infer_instance

theorem expandAttribute_plain (s : Subset) (depth : Nat) {fuel : Nat}
    (h : ∀ c ∈ cs, IsValueChar c) (hfuel : cs.length ≤ fuel) :
    s.expandAttribute depth fuel cs = some (cs, []) := by
  induction cs generalizing fuel with
  | nil => rw [Subset.expandAttribute]
  | cons c cs ih =>
    obtain ⟨⟨hmark, hreference, -, hspace⟩, hcs⟩ := List.forall_mem_cons.1 h
    obtain ⟨fuel, rfl⟩ : ∃ k, fuel = k + 1 := ⟨fuel - 1, by rw [List.length_cons] at hfuel; omega⟩
    have hkept : (if isSpace c then ' ' else c) = c := by
      split
      · rename_i hc
        exact (hspace hc).symm
      · rfl
    rw [Subset.expandAttribute]
    · rw [if_neg hmark, ih hcs (by simpa using hfuel)]
      simp only [hkept]
      rfl
    · exact fun _ hc _ => hreference hc
    · exact hreference

/-- An attribute of plain text is read before the others. -/
theorem readAttributes?_attribute {pad name value next : List Char} (hpad : pad.all isSpace)
    (hname : isName name) (hvalue : ∀ c ∈ value, IsValueChar c)
    (hnext : next.head?.any fun c => isSpace c || c == '>' || c == '/') (b : Char)
    (bound : List Char) :
    readAttributes? {} (b :: bound) (pad ++ (name ++ '=' :: '"' :: (value ++ '"' :: next))) =
      (readAttributes? {} bound next).map fun (others, empty, remarks, rest) =>
        ((name, value) :: others, empty, remarks, rest) := by
  let after := '"' :: (value ++ '"' :: next)
  have hread := readName?_append hname (c := '=') (by decide) after
  have hequals : dropText? ['='] (skipSpace ('=' :: after)) = some after := rfl
  have hquoted : readQuoted? (skipSpace after) = some (value, next) :=
    readDelimited?_quote (fun hmem => (hvalue _ hmem).2.2.1 rfl) next
  have htext : Subset.attributeText? {} value = some (value, []) :=
    expandAttribute_plain _ _ hvalue (Nat.le_refl _)
  have hclose := head_ne_of_isName hname (c := '>') (by decide) ('=' :: after)
  have hslash := head_ne_of_isName hname (c := '/') (by decide) ('=' :: after)
  have hskip : skipSpace (pad ++ (name ++ '=' :: after)) = name ++ '=' :: after := by
    cases name with
    | nil => cases hname
    | cons c cs =>
      unfold isName at hname
      exact skipSpace_append hpad (isSpace_of_isNameStart (Bool.and_eq_true_iff.1 hname).1) _
  rw [readAttributes?, hskip]
  split
  · rename_i heq
    exact absurd heq (hclose _)
  · rename_i heq
    exact absurd heq (hslash _)
  · simp only [hread, hequals, hquoted, htext, hnext, Option.bind_eq_bind, Option.bind_some,
      Bool.not_true, Bool.false_eq_true, if_false, List.nil_append]
    cases readAttributes? {} bound next <;> rfl

/-! ## Start tags -/

theorem readStartTag?_eq {name text rest : List Char} {attributes : List (List Char × List Char)}
    {empty : Bool} {remarks : List Remark} (hname : readName? cs = some (name, text))
    (hattributes : readAttributes? {} text text = some (attributes, empty, remarks, rest)) :
    readStartTag? {} cs = some (⟨name, attributes, empty⟩, remarks, rest) := by
  rw [readStartTag?, hname]
  simp only [Option.bind_eq_bind, Option.bind_some, hattributes]
  rfl

theorem readStartTag?_plain (h : isName cs) (rest : List Char) :
    readStartTag? {} (cs ++ '>' :: rest) = some (⟨cs, [], false⟩, [], rest) :=
  readStartTag?_eq (readName?_append h (by decide) rest) rfl

theorem resolve?_plain {uri : String} (hname : IsLocalName cs)
    (hscope : lookup? scope [] = some uri) (huri : uri ≠ "") :
    (StartTag.mk cs [] false).resolve? {} scope =
      some (⟨some uri, String.ofList cs⟩, scope, []) := by
  simp [StartTag.resolve?, missingDefaults, hname.2, hscope, huri]

end

end Sitemap.Xml
