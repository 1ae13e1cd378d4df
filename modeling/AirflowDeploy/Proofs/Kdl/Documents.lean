import AirflowDeploy.Proofs.Kdl.Entries

/-!
# Written documents

What the reader makes of a document that the printer has written. It gives the document back, or
nothing where one of its strings cannot be read: no string reaches into the text around it.
-/
namespace AirflowDeploy.Kdl

open AirflowDeploy.Text

mutual

/-- A node and all nodes below it. -/
def Node.family : Node → List Node
  | ⟨name, entries, children⟩ => ⟨name, entries, children⟩ :: families children

/-- All nodes of a document. -/
def families : List Node → List Node
  | [] => []
  | node :: rest => node.family ++ families rest

end

theorem mem_families {m : Node} {nodes : List Node} :
    m ∈ families nodes ↔ ∃ n ∈ nodes, m ∈ n.family := by
  induction nodes with
  | nil => simp [families]
  | cons n nodes ih => simp [families, ih]

theorem Node.induction {P : Node → Prop}
    (h : ∀ name entries children, (∀ child ∈ children, P child) → P ⟨name, entries, children⟩) :
    ∀ node, P node
  | ⟨name, entries, children⟩ =>
    h name entries children fun child _ => Node.induction h child

namespace Node

/-- The name of a node and the texts in its entries. -/
def texts (n : Node) : List String := n.name :: n.entries.flatMap Entry.texts

/-- Whether the name and the entries of a written node are read back. -/
def isReadable (n : Node) : Bool := n.texts.all fun text => Kdl.isReadable text.toList

/-- A node whose values are no numbers. -/
def Wordy (n : Node) : Prop := ∀ e ∈ n.entries, e.value.isNumber = false

/-- The text of the children of a node, with the blank before it. -/
def childrenText (level : Nat) (children : List Node) : List Char :=
  if children.isEmpty then []
  else ' ' :: '\x7b' :: '\n' :: renderNodes (level + 1) children ++ indentation level ++ ['\x7d']

/-- The text of a node between its indentation and the end of its last line. -/
def text (level : Nat) (n : Node) : List Char :=
  renderString n.name.toList ++ (renderEntries n.entries ++ childrenText level n.children)

end Node

theorem renderNode_eq (level : Nat) (n : Node) :
    renderNode level n = indentation level ++ (n.text level ++ ['\n']) := by
  obtain ⟨name, entries, children⟩ := n
  simp [renderNode, Node.text, Node.childrenText, renderEntries]

theorem Node.text_eq_cons (level : Nat) (n : Node) :
    ∃ c rest, n.text level = c :: rest ∧ startsString c := by
  obtain ⟨c, rest, hrender, hc⟩ := renderString_eq_cons n.name.toList
  exact ⟨c, _, by rw [Node.text, hrender, List.cons_append], hc⟩

theorem settled_of_startsString {c : Char} (h : startsString c) (rest : List Char) :
    Settled (c :: rest) := by
  refine ⟨solid_of_starts (starts_of_startsString h) rest, ?_⟩
  by_contra hnewline
  have hword : isIdentifierChar c = false := by simp_all [isIdentifierChar]
  have hquote : c = '"' := by simpa [startsString, hword] using h
  exact hnewline (by rw [hquote]; decide)

/-- A node is read back before the end of a line, as far as it can be. -/
def ReadsBack (level : Nat) (n : Node) : Prop :=
  ∀ {fuel : Nat} (rest : List Char), (n.text level).length < fuel →
    readNode fuel (n.text level ++ '\n' :: rest) =
      if n.family.all Node.isReadable then some (n, '\n' :: rest) else none

/-- The text after the nodes at one level: a closing brace, or nothing at all. -/
inductive EndsNodes : List Char → Prop where
  | document : EndsNodes []
  | children (rest : List Char) : EndsNodes ('\x7d' :: rest)

theorem EndsNodes.settled {tail : List Char} (h : EndsNodes tail) : Settled tail := by
  cases h with
  | document => trivial
  | children rest => refine ⟨⟨?_, ?_, ?_⟩, ?_⟩ <;> decide

theorem readNodes_end {tail cs : List Char} (h : EndsNodes tail) (hcs : lineSpace cs = some tail)
    (fuel : Nat) : readNodes (fuel + 1) cs = some ([], tail) := by
  rw [readNodes, hcs]
  cases h with
  | document => rfl
  | children rest => rfl

theorem readNodes_node {c : Char} {cs rest : List Char} (hcs : lineSpace cs = some (c :: rest))
    (hc : startsString c) (fuel : Nat) :
    readNodes (fuel + 1) cs =
      (readNode fuel (c :: rest)).bind fun r =>
        (afterTerminator? r.2).bind fun rest =>
          (readNodes fuel rest).map fun s => (r.1 :: s.1, s.2) := by
  have hbrace : c ≠ '\x7d' := startsString_ne hc (by decide)
  have hslash : c ≠ '/' := startsString_ne hc (by decide)
  rw [readNodes, hcs]
  split
  · next h => cases h
  · next h => cases h
  · next h => exact absurd (List.cons.inj (Option.some.inj h)).1 hbrace
  · next h => exact absurd (List.cons.inj (Option.some.inj h)).1 hslash
  · next h =>
    cases h
    rfl

theorem renderNodes_cons_append (level : Nat) (n : Node) (nodes : List Node) (rest : List Char) :
    renderNodes level (n :: nodes) ++ rest =
      indentation level ++ (n.text level ++ '\n' :: (renderNodes level nodes ++ rest)) := by
  rw [renderNodes, renderNode_eq]
  simp

/-- Nodes are read back up to the text that ends them. -/
theorem readNodes_render {level : Nat} {nodes : List Node}
    (hnodes : ∀ n ∈ nodes, ReadsBack level n) {tail : List Char} (htail : EndsNodes tail) (k : Nat)
    {fuel : Nat} (hfuel : (renderNodes level nodes).length < fuel) :
    readNodes fuel (renderNodes level nodes ++ (indentation k ++ tail)) =
      if (families nodes).all Node.isReadable then some (nodes, tail) else none := by
  induction nodes generalizing fuel with
  | nil =>
    obtain ⟨fuel, rfl⟩ := Nat.exists_eq_succ_of_ne_zero (Nat.ne_zero_of_lt hfuel)
    exact readNodes_end htail (lineSpace_blanks htail.settled _) fuel
  | cons n nodes ih =>
    obtain ⟨fuel, rfl⟩ := Nat.exists_eq_succ_of_ne_zero (Nat.ne_zero_of_lt hfuel)
    obtain ⟨hn, hrest⟩ := List.forall_mem_cons.mp hnodes
    obtain ⟨c, cs, htext, hc⟩ := n.text_eq_cons level
    let more := renderNodes level nodes ++ (indentation k ++ tail)
    have hlengths : (n.text level).length < fuel ∧ (renderNodes level nodes).length < fuel := by
      have hlength := congrArg List.length (renderNodes_cons_append level n nodes [])
      simp only [List.append_nil, List.length_append, List.length_cons] at hlength
      omega
    have hspace : lineSpace (indentation level ++ (n.text level ++ '\n' :: more)) =
        some (n.text level ++ '\n' :: more) := by
      rw [htext]
      exact lineSpace_blanks (settled_of_startsString hc _) _
    have hread := hn more hlengths.1
    have hend : afterTerminator? ('\n' :: more) = some more := rfl
    rw [htext, List.cons_append] at hspace hread
    rw [renderNodes_cons_append, htext, List.cons_append, readNodes_node hspace hc, hread,
      families, List.all_append]
    by_cases hfamily : n.family.all Node.isReadable
    · rw [if_pos hfamily, Option.bind_some, hend, Option.bind_some, ih hrest hlengths.2, hfamily,
        Bool.true_and]
      split <;> rfl
    · simp [hfamily]

/-- A line end before the nodes of a level is passed over. -/
theorem readNodes_newline {level : Nat} {nodes : List Node} {tail : List Char}
    (htail : EndsNodes tail) (k fuel : Nat) :
    readNodes (fuel + 1) ('\n' :: (renderNodes level nodes ++ (indentation k ++ tail))) =
      readNodes (fuel + 1) (renderNodes level nodes ++ (indentation k ++ tail)) := by
  have hspace : lineSpace ('\n' :: (renderNodes level nodes ++ (indentation k ++ tail))) =
      lineSpace (renderNodes level nodes ++ (indentation k ++ tail)) := by
    cases nodes with
    | nil => exact (lineSpace_newline htail.settled _).trans (lineSpace_blanks htail.settled _).symm
    | cons n nodes =>
      obtain ⟨c, cs, htext, hc⟩ := n.text_eq_cons level
      have hsettled := settled_of_startsString hc
        (cs ++ '\n' :: (renderNodes level nodes ++ (indentation k ++ tail)))
      rw [renderNodes_cons_append, htext]
      exact (lineSpace_newline hsettled _).trans (lineSpace_blanks hsettled _).symm
  rw [readNodes, readNodes, hspace]

theorem endsEntries_childrenText (level : Nat) (children : List Node) (rest : List Char) :
    EndsEntries (Node.childrenText level children ++ '\n' :: rest)
      ((Node.childrenText level children).tail ++ '\n' :: rest) := by
  cases children with
  | nil => exact .line rest
  | cons child children => exact .children _

theorem readChildren_render {level : Nat} {children : List Node}
    (h : ∀ child ∈ children, ReadsBack (level + 1) child) (rest : List Char) {fuel : Nat}
    (hfuel : (Node.childrenText level children).length < fuel) :
    readChildren fuel ((Node.childrenText level children).tail ++ '\n' :: rest) =
      if (families children).all Node.isReadable then some (children, '\n' :: rest) else none := by
  obtain ⟨fuel, rfl⟩ := Nat.exists_eq_succ_of_ne_zero (Nat.ne_zero_of_lt hfuel)
  by_cases hnone : children = []
  · subst hnone
    rfl
  · have hsome : children.isEmpty = false := List.isEmpty_eq_false_iff.mpr hnone
    have htext : (Node.childrenText level children).tail ++ '\n' :: rest =
        '\x7b' :: '\n' :: (renderNodes (level + 1) children ++
          (indentation level ++ '\x7d' :: '\n' :: rest)) := by
      simp [Node.childrenText, hsome]
    have hlength : (renderNodes (level + 1) children).length + 4 ≤ fuel := by
      simp [Node.childrenText, hsome] at hfuel
      omega
    obtain ⟨fuel, rfl⟩ := Nat.exists_eq_add_of_le' (Nat.le_trans (Nat.le_add_left 1 _) hlength)
    have hhidden : skipHiddenChildren (fuel + 1) ('\n' :: rest) = some ('\n' :: rest) := by
      rw [skipHiddenChildren, nodeSpace_solid (by refine ⟨?_, ?_, ?_⟩ <;> decide)]
      rfl
    rw [htext, readChildren, readNodes_newline (.children _),
      readNodes_render h (.children ('\n' :: rest)) level (by omega)]
    by_cases hread : (families children).all Node.isReadable
    · simp [hread, hhidden]
    · simp [hread]

theorem length_le_renderEntries (entries : List Entry) :
    entries.length ≤ (renderEntries entries).length := by
  induction entries with
  | nil => exact Nat.zero_le _
  | cons e entries ih =>
    simp only [renderEntries, List.flatMap_cons, List.length_append, List.length_cons] at ih ⊢
    omega

theorem all_isReadable_family (name : String) (entries : List Entry) (children : List Node) :
    (Node.family ⟨name, entries, children⟩).all Node.isReadable =
      (isReadable name.toList && entries.all Entry.isReadable &&
        (families children).all Node.isReadable) := by
  rw [Node.family, List.all_cons, Node.isReadable, Node.texts, List.all_cons, List.all_flatMap]
  rfl

theorem readNode_render {level : Nat} {n : Node} (hwordy : n.Wordy)
    (hchildren : ∀ child ∈ n.children, ReadsBack (level + 1) child) : ReadsBack level n := by
  intro fuel rest hfuel
  obtain ⟨name, entries, children⟩ := n
  obtain ⟨fuel, rfl⟩ := Nat.exists_eq_succ_of_ne_zero (Nat.ne_zero_of_lt hfuel)
  have hends := endsEntries_childrenText level children rest
  obtain ⟨d, more, hmore, hd, -⟩ := renderEntries_append_eq_cons hwordy hends
  have hwhole : Node.text level ⟨name, entries, children⟩ ++ '\n' :: rest =
      renderString name.toList ++ d :: more := by
    rw [← hmore]
    simp [Node.text]
  have hplain : afterType? (renderString name.toList ++ d :: more) =
      some (renderString name.toList ++ d :: more) := afterType?_render (v := .string name) rfl _
  have hcount : entries.length < (d :: more).length + 1 := by
    have hlength := congrArg List.length hmore
    have := length_le_renderEntries entries
    simp only [List.length_append, List.length_cons] at hlength ⊢
    omega
  have hentries : readEntries ((d :: more).length + 1) (d :: more) =
      if entries.all Entry.isReadable then
        some (entries, (Node.childrenText level children).tail ++ '\n' :: rest)
      else none := by
    have hread := readEntries_render hwordy hends hcount
    rwa [hmore] at hread
  have hshort : (Node.childrenText level children).length < fuel := by
    obtain ⟨c, cs, hname, -⟩ := renderString_eq_cons name.toList
    simp only [Node.text, hname, List.length_append, List.length_cons] at hfuel
    omega
  have hbelow : readChildren fuel ((Node.childrenText level children).tail ++ '\n' :: rest) =
      if (families children).all Node.isReadable then some (children, '\n' :: rest) else none :=
    readChildren_render hchildren rest hshort
  rw [hwhole, readNode, hplain, Option.bind_some, readString_renderString _ _ hd,
    all_isReadable_family]
  by_cases hfirst : isReadable name.toList
  · rw [if_pos hfirst]
    by_cases hsecond : entries.all Entry.isReadable
    · simp only [hentries, hbelow, hfirst, hsecond, if_true, Bool.true_and, String.ofList_toList]
      split <;> rfl
    · simp only [hentries, hfirst, hsecond, Bool.and_false, Bool.false_and]
      rfl
  · simp [hfirst]

/-- Every node is read back, by induction on the tree. -/
theorem readsBack (n : Node) (hwordy : ∀ m ∈ n.family, m.Wordy) (level : Nat) :
    ReadsBack level n := by
  induction n using Node.induction generalizing level with
  | h name entries children ih =>
    obtain ⟨hnode, hbelow⟩ := List.forall_mem_cons.mp hwordy
    refine readNode_render hnode fun child hchild => ih child hchild (fun m hm => ?_) (level + 1)
    exact hbelow m (mem_families.mpr ⟨child, hchild, hm⟩)

theorem isClean_indentation (level : Nat) : isClean (indentation level) = true := by
  simp only [isClean, List.all_eq_true, indentation, List.mem_replicate]
  rintro c ⟨-, rfl⟩
  rfl

theorem Value.isClean_render {v : Value} (hv : v.isNumber = false) :
    isClean v.render = v.texts.all fun text => isClean (renderString text.toList) := by
  cases v with
  | string text => exact (Bool.and_true _).symm
  | bool value => cases value <;> rfl
  | null => rfl
  | number literal => cases hv

theorem Entry.isClean_render {e : Entry} (he : e.value.isNumber = false) :
    isClean e.render = e.texts.all fun text => isClean (renderString text.toList) := by
  obtain ⟨name, value⟩ := e
  have hvalue := value.isClean_render he
  cases name with
  | none => exact hvalue
  | some name =>
    change isClean (renderString name.toList ++ ('=' :: value.render)) = _
    rw [isClean_append, Entry.texts, Option.toList_some, List.singleton_append, List.all_cons,
      ← hvalue]
    rfl

theorem isClean_renderEntries {entries : List Entry}
    (hentries : ∀ e ∈ entries, e.value.isNumber = false) :
    isClean (renderEntries entries) =
      (entries.flatMap Entry.texts).all fun text => isClean (renderString text.toList) := by
  induction entries with
  | nil => rfl
  | cons e entries ih =>
    obtain ⟨he, hrest⟩ := List.forall_mem_cons.mp hentries
    rw [List.flatMap_cons, List.all_append, ← ih hrest, ← e.isClean_render he]
    change isClean ((' ' :: e.render) ++ renderEntries entries) = _
    rw [isClean_append]
    rfl

/-- Nothing but the strings of a node puts forbidden characters into its text. -/
def CleanByTexts (level : Nat) (n : Node) : Prop :=
  isClean (n.text level) =
    (n.family.flatMap Node.texts).all fun text => isClean (renderString text.toList)

theorem isClean_renderNodes {level : Nat} {nodes : List Node}
    (hnodes : ∀ n ∈ nodes, CleanByTexts level n) :
    isClean (renderNodes level nodes) =
      ((families nodes).flatMap Node.texts).all fun text => isClean (renderString text.toList) := by
  induction nodes with
  | nil => rfl
  | cons n nodes ih =>
    obtain ⟨hn, hrest⟩ := List.forall_mem_cons.mp hnodes
    have hend : isClean ['\n'] = true := rfl
    rw [renderNodes, renderNode_eq, isClean_append, isClean_append, isClean_append,
      isClean_indentation, hend, ih hrest, hn, families, List.flatMap_append, List.all_append,
      Bool.true_and, Bool.and_true]

theorem isClean_childrenText {level : Nat} {children : List Node}
    (h : ∀ child ∈ children, CleanByTexts (level + 1) child) :
    isClean (Node.childrenText level children) =
      ((families children).flatMap Node.texts).all fun text =>
        isClean (renderString text.toList) := by
  rw [← isClean_renderNodes h, Node.childrenText]
  cases children with
  | nil => rfl
  | cons child children =>
    have hopen : isClean [' ', '\x7b', '\n'] = true := rfl
    have hclose : isClean ['\x7d'] = true := rfl
    change isClean (([' ', '\x7b', '\n'] ++ renderNodes (level + 1) (child :: children)) ++
      indentation level ++ ['\x7d']) = _
    simp only [isClean_append, isClean_indentation, hopen, hclose, Bool.true_and, Bool.and_true]

theorem cleanByTexts (n : Node) (hwordy : ∀ m ∈ n.family, m.Wordy) (level : Nat) :
    CleanByTexts level n := by
  induction n using Node.induction generalizing level with
  | h name entries children ih =>
    obtain ⟨hnode, hbelow⟩ := List.forall_mem_cons.mp hwordy
    have hchildren : ∀ child ∈ children, CleanByTexts (level + 1) child := fun child hchild =>
      ih child hchild (fun m hm => hbelow m (mem_families.mpr ⟨child, hchild, hm⟩)) (level + 1)
    have hentries : isClean (renderEntries entries) = _ := isClean_renderEntries hnode
    rw [CleanByTexts, Node.text, isClean_append, isClean_append, hentries,
      isClean_childrenText hchildren, Node.family, List.flatMap_cons, List.all_append, Node.texts,
      List.all_cons, Bool.and_assoc]

/-- The texts of a document. -/
def textsOf (d : Document) : List String := (families d).flatMap Node.texts

/-- A byte-order mark starts no written document. -/
theorem withoutMark_renderNodes (d : Document) :
    withoutMark (renderNodes 0 d) = renderNodes 0 d := by
  cases d with
  | nil => rfl
  | cons n nodes =>
    obtain ⟨c, cs, htext, hc⟩ := n.text_eq_cons 0
    have hwhole : renderNodes 0 (n :: nodes) = c :: (cs ++ '\n' :: renderNodes 0 nodes) := by
      simpa [htext, indentation] using renderNodes_cons_append 0 n nodes []
    rw [hwhole, withoutMark]
    rintro rest h
    exact startsString_ne hc (by decide) (List.cons.inj h).1

/-- A written document without numbers is read back, or nothing is read where one of its texts is
lost. It is never read as another document. -/
theorem read?_render {d : Document} (hwordy : ∀ n ∈ families d, n.Wordy) :
    read? (render d) = if ∀ text ∈ textsOf d, Faithful text then some d else none := by
  have hfamily : ∀ n ∈ d, ∀ m ∈ n.family, m.Wordy := fun n hn m hm =>
    hwordy m (mem_families.mpr ⟨n, hn, hm⟩)
  have hclean : isClean (renderNodes 0 d) = true ↔
      ∀ text ∈ textsOf d, isClean (renderString text.toList) = true := by
    rw [isClean_renderNodes fun n hn => cleanByTexts n (hfamily n hn) 0, List.all_eq_true]
    rfl
  have hforbidden : (renderNodes 0 d).any isForbidden = !isClean (renderNodes 0 d) := by
    simp [isClean, List.any_eq_not_all_not]
  have hreadable : (families d).all Node.isReadable = true ↔
      ∀ text ∈ textsOf d, isReadable text.toList = true := by
    rw [textsOf, ← List.all_eq_true, List.all_flatMap]
    rfl
  have hread := readNodes_render (fun n hn => readsBack n (hfamily n hn) 0) .document 0
    (Nat.lt_succ_self (renderNodes 0 d).length)
  have hwhole : renderNodes 0 d ++ (indentation 0 ++ []) = renderNodes 0 d := List.append_nil _
  rw [hwhole] at hread
  rw [read?, render, String.toList_ofList, withoutMark_renderNodes, hforbidden]
  simp only [faithful_iff, forall₂_and, ← hclean, ← hreadable, hread]
  by_cases hkept : isClean (renderNodes 0 d)
  · by_cases hback : (families d).all Node.isReadable
    · simp only [hkept, hback, Bool.not_true, Bool.false_eq_true, if_false, if_true, and_self]
    · simp only [hkept, hback, Bool.not_true, Bool.false_eq_true, if_false, false_and]
  · simp only [hkept, Bool.not_false, if_true, and_false, if_false, Bool.false_eq_true]

end AirflowDeploy.Kdl
