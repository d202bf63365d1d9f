import EventGraph.Graph.Connector
import EventGraph.Proofs.Document.Admitted
import EventGraph.Proofs.Number.Alike
import EventGraph.Proofs.Number.Small

/-!
# Geometry of equal nodes

Equality of nodes leaves the text block out. What is drawn and hit of a node but for its exits does
not depend on it. The exits of a choice and of a switch hang below it, so they are where those of an
equal node are if the text blocks of both were made in one way: by reading, which makes none, or by
layouts, whose heights tell how many lines there are. A node that was laid out and the same node
read from a file are equal, and their exits are not.
-/

namespace EventGraph

open Number (Alike IsWhole)

/-! ### Alike geometry -/

instance : DecidableRel Number.Alike := fun _ _ => inferInstanceAs (Decidable (_ ∨ _))

/-- Alike in both coordinates. -/
def Point.Alike (p q : Point Float32) : Prop := Number.Alike p.x q.x ∧ Number.Alike p.y q.y

instance : DecidableRel Point.Alike := fun _ _ => inferInstanceAs (Decidable (_ ∧ _))

/-- Alike in both corners. -/
def Rect.Alike (r s : Rect Float32) : Prop := r.min.Alike s.min ∧ r.max.Alike s.max

theorem Rect.alike_ofSize {corner corner' size size' : Point Float32}
    (hcorner : corner.Alike corner') (hsize : size.Alike size') :
    (Rect.ofSize corner size).Alike (.ofSize corner' size') :=
  ⟨hcorner, hcorner.1.add hsize.1, hcorner.2.add hsize.2⟩

/-- The same points are in rectangles that are alike. -/
theorem Rect.Alike.contains {r s : Rect Float32} (h : r.Alike s) (p : Point Float32) :
    r.contains p = s.contains p := by
  obtain ⟨⟨hleft, htop⟩, hright, hbottom⟩ := h
  simp only [Rect.contains, hleft.le_iff (.refl p.x), htop.le_iff (.refl p.y),
    (Number.Alike.refl p.x).le_iff hright, (Number.Alike.refl p.y).le_iff hbottom]

namespace Node

variable {n m : Node Float32}

/-- The box of a node, its button and its entrance are alike those of another. -/
structure SameBox (n m : Node Float32) : Prop where
  rect : n.rect.Alike m.rect
  closeButton : n.closeButton.Alike m.closeButton
  entrance : n.entrance.Alike m.entrance

/-- The exits are as many, at points that are alike. -/
def SameExits (n m : Node Float32) : Prop := List.Forall₂ Point.Alike n.exitAnchors m.exitAnchors

/-- What equality looks at. -/
structure Agrees (n m : Node Float32) : Prop where
  id : n.id = m.id
  body : n.body = m.body
  x : Alike n.x m.x
  y : Alike n.y m.y
  height : (n.height == m.height) = true

theorem agrees_of_beq (h : (n == m) = true) : n.Agrees m := by
  have hfields : (n.id == m.id && n.x == m.x && n.y == m.y && n.body == m.body &&
    n.height == m.height) = true := h
  simp only [Bool.and_eq_true, beq_iff_eq] at hfields
  obtain ⟨⟨⟨⟨hid, hx⟩, hy⟩, hbody⟩, hheight⟩ := hfields
  exact ⟨hid, hbody, .inl hx, .inl hy, hheight⟩

theorem Agrees.sameBox (h : n.Agrees m) : n.SameBox m where
  rect := Rect.alike_ofSize ⟨h.x, h.y⟩ ⟨.refl _, .inl h.height⟩
  closeButton := Rect.alike_ofSize
    ⟨((h.x.add (.refl _)).sub (.refl _)).sub (.refl _), h.y.add (.refl _)⟩ ⟨.refl _, .refl _⟩
  entrance := ⟨h.x, h.y.add ((Alike.mul (.inl h.height) (.refl _)))⟩

/-- Points at the right of so many rows below the text block. -/
def rowAnchors (n : Node Float32) (rows : Nat) : List (Point Float32) :=
  let top := n.y + Metrics.headerHeight + n.textBlock
  (List.range rows).map fun (i : Nat) =>
    ⟨n.x + Metrics.nodeWidth, top + ((i : Float32) + 0.5) * Metrics.exitRowHeight⟩

theorem Agrees.rowAnchors (h : n.Agrees m) (hblock : Alike n.textBlock m.textBlock) (rows : Nat) :
    List.Forall₂ Point.Alike (n.rowAnchors rows) (m.rowAnchors rows) := by
  rw [Node.rowAnchors, Node.rowAnchors, List.forall₂_map_left_iff, List.forall₂_map_right_iff,
    List.forall₂_same]
  exact fun i _ => ⟨h.x.add (.refl _), ((h.y.add (.refl _)).add hblock).add (.refl _)⟩

/-- The text block is all that can set exits of equal nodes apart, and only where there are rows. -/
theorem Agrees.sameExits (h : n.Agrees m)
    (hblock : n.kind = .choice ∨ n.kind = .switch → Alike n.textBlock m.textBlock) :
    n.SameExits m := by
  rw [SameExits, exitAnchors, exitAnchors, ← h.body]
  rw [kind] at hblock
  cases hbody : n.body with
  | exec e => exact .cons ⟨h.x.add (.refl _), h.y.add (Alike.mul (.inl h.height) (.refl _))⟩ .nil
  | choice c => exact h.rowAnchors (hblock (by simp [hbody, Body.kind])) _
  | switch s => exact h.rowAnchors (hblock (by simp [hbody, Body.kind])) _
  | terminal | comment text => exact .nil

/-! ### Text blocks -/

/-- The text block of a body when it is laid out. -/
def blockOf (w : Measurer Float32) (b : Body) : Float32 :=
  match b.text? with
  | some text => textBlockHeight w text
  | none => 0.0

theorem layOut_layOut (w w' : Measurer Float32) (n : Node Float32) :
    (n.layOut w).layOut w' = n.layOut w' := rfl

theorem textBlock_of_layOut {w : Measurer Float32} (h : n.layOut w = n) :
    n.textBlock = blockOf w n.body := (congrArg textBlock h).symm

theorem height_of_layOut {w : Measurer Float32} (h : n.layOut w = n) :
    n.height = bodyHeight n.body (blockOf w n.body) := (congrArg height h).symm

theorem textBlock_of_node? {t : Json.Tree} (h : Document.node? t = some n) : n.textBlock = 0.0 :=
  (congrArg textBlock (Document.of_node? h).2).symm

/-- So few lines and exits that no height is rounded. -/
structure Fits (w : Measurer Float32) (b : Body) : Prop where
  lines : ∀ text, b.text? = some text → Text.lineCount w text < 2 ^ 18
  exits : b.exitCount < 2 ^ 18

/-- The height of the text block of so many lines. -/
def linesHeight (lines : Nat) : Nat := if lines = 0 then 0 else 8 + lines * 16

theorem isWhole_textBlockHeight {w : Measurer Float32} {text : String}
    (hlines : Text.lineCount w text < 2 ^ 18) :
    IsWhole (textBlockHeight w text) (linesHeight (Text.lineCount w text)) := by
  rw [textBlockHeight, linesHeight]
  split
  · exact ⟨by decide, by decide⟩
  · have hpadding : IsWhole Metrics.padding 8 := ⟨by decide, by decide⟩
    have hline : IsWhole Metrics.lineHeight 16 := ⟨by decide, by decide⟩
    have hcount := Number.isWhole_ofNat (n := Text.lineCount w text) (by omega)
    exact hpadding.add (hcount.mul hline (by omega) (by omega) (by omega)) (by omega)

theorem isWhole_bodyHeight {w : Measurer Float32} {c : Choice} (h : Fits w (.choice c)) :
    IsWhole (bodyHeight (.choice c) (blockOf w (.choice c)))
      (max (24 + linesHeight (Text.lineCount w c.prompt) + c.entries.length * 22 + 8) 56) := by
  have hlines := h.lines c.prompt rfl
  have hexits : c.entries.length < 2 ^ 18 := h.exits
  have hblock := isWhole_textBlockHeight hlines
  have hbound : linesHeight (Text.lineCount w c.prompt) ≤ 2 ^ 22 := by
    rw [linesHeight]
    split <;> omega
  have hheader : IsWhole Metrics.headerHeight 24 := ⟨by decide, by decide⟩
  have hpadding : IsWhole Metrics.padding 8 := ⟨by decide, by decide⟩
  have hrow : IsWhole Metrics.exitRowHeight 22 := ⟨by decide, by decide⟩
  have hleast : IsWhole (Metrics.leastHeight .choice) 56 := ⟨by decide, by decide⟩
  have hrows : IsWhole ((c.entries.length : Float32) * Metrics.exitRowHeight)
      (c.entries.length * 22) :=
    (Number.isWhole_ofNat (by omega)).mul hrow (by omega) (by omega) (by omega)
  have habove := (hheader.add hblock (by omega)).add hrows (by omega)
  exact (habove.add hpadding (by omega)).max hleast

/-- The height of a laid out choice tells the height of its text block. -/
theorem blockOf_eq_of_height {w w' : Measurer Float32} {c : Choice} (hrows : 0 < c.entries.length)
    (h : Fits w (.choice c)) (h' : Fits w' (.choice c))
    (hheight : (bodyHeight (.choice c) (blockOf w (.choice c)) ==
      bodyHeight (.choice c) (blockOf w' (.choice c))) = true) :
    blockOf w (.choice c) = blockOf w' (.choice c) := by
  have hheights := (isWhole_bodyHeight h).eq_of_beq (isWhole_bodyHeight h') hheight
  have hlines : Text.lineCount w c.prompt = Text.lineCount w' c.prompt := by
    rw [linesHeight, linesHeight] at hheights
    split at hheights <;> split at hheights <;> omega
  show textBlockHeight w c.prompt = textBlockHeight w' c.prompt
  rw [textBlockHeight, textBlockHeight, hlines]

/-- Equal nodes that were laid out have the same exits, whatever their texts were measured with. -/
theorem Agrees.sameExits_of_layOut {w w' : Measurer Float32} (h : n.Agrees m) (hn : n.layOut w = n)
    (hm : m.layOut w' = m) (hfits : Fits w n.body) (hfits' : Fits w' m.body) : n.SameExits m := by
  have hheight := h.height
  rw [height_of_layOut hn, height_of_layOut hm] at hheight
  rw [← h.body] at hheight hfits'
  cases hbody : n.body with
  | exec e | terminal | comment text =>
    refine h.sameExits fun hkind => ?_
    simp [kind, hbody, Body.kind] at hkind
  | switch s =>
    refine h.sameExits fun _ => ?_
    rw [textBlock_of_layOut hn, textBlock_of_layOut hm, ← h.body, hbody]
    exact .refl _
  | choice c =>
    rw [hbody] at hheight hfits hfits'
    rcases Nat.eq_zero_or_pos c.entries.length with hnone | hrows
    · have hanchors : ∀ n' : Node Float32, n'.body = .choice c → n'.exitAnchors = [] := by
        intro n' hn'
        rw [← List.length_eq_zero_iff, length_exitAnchors, hn']
        exact hnone
      rw [SameExits, hanchors n hbody, hanchors m (h.body ▸ hbody)]
      exact .nil
    · refine h.sameExits fun _ => ?_
      rw [textBlock_of_layOut hn, textBlock_of_layOut hm, ← h.body, hbody,
        blockOf_eq_of_height hrows hfits hfits' hheight]
      exact .refl _

/-- Two nodes whose text blocks were made in one way. -/
inductive Akin (n m : Node Float32) : Prop
  /-- Nothing hangs below the text block. -/
  | unstacked (h : n.kind ≠ .choice ∧ n.kind ≠ .switch)
  /-- The text block was left when the other node was made from the one. -/
  | edited (h : n.textBlock = m.textBlock)
  | read {t t' : Json.Tree} (h : Document.node? t = some n) (h' : Document.node? t' = some m)
  | laidOut {w : Measurer Float32} (h : n.layOut w = n) (h' : m.layOut w = m)
  | laidOutApart {w w' : Measurer Float32} (h : n.layOut w = n) (h' : m.layOut w' = m)
    (hfits : Fits w n.body) (hfits' : Fits w' m.body)

theorem Agrees.sameExits_of_akin (h : n.Agrees m) (hakin : n.Akin m) : n.SameExits m := by
  cases hakin with
  | unstacked hkind => exact h.sameExits fun hstacked => absurd hstacked (not_or.mpr hkind)
  | edited hblock => exact h.sameExits fun _ => hblock ▸ .refl _
  | read hn hm =>
    refine h.sameExits fun _ => ?_
    rw [textBlock_of_node? hn, textBlock_of_node? hm]
    exact .refl _
  | laidOut hn hm =>
    refine h.sameExits fun _ => ?_
    rw [textBlock_of_layOut hn, textBlock_of_layOut hm, h.body]
    exact .refl _
  | laidOutApart hn hm hfits hfits' => exact h.sameExits_of_layOut hn hm hfits hfits'

end Node

/-! ### Graphs that are equal node by node -/

/-- Two views of one exit, at places that are alike. -/
structure Connector.Alike (c d : Connector Float32) : Prop where
  source : c.source = d.source
  index : c.index = d.index
  target : c.target = d.target
  start : c.start.Alike d.start
  stop : Option.Rel Point.Alike c.stop d.stop

/-- What is found first in two lists is related as the lists are. -/
theorem rel_find? {β γ : Type} {r : β → γ → Prop} {p : β → Bool} {q : γ → Bool} {l : List β}
    {l' : List γ} (h : List.Forall₂ r l l') (hpick : ∀ b c, r b c → p b = q c) :
    Option.Rel r (l.find? p) (l'.find? q) := by
  induction h with
  | nil => exact .none
  | cons hhead _ ih =>
    rw [List.find?_cons, List.find?_cons, hpick _ _ hhead]
    split
    · exact .some hhead
    · exact ih

theorem rel_mapIdx {β γ δ ε : Type} {r : β → γ → Prop} {s : δ → ε → Prop} {f : Nat → β → δ}
    {f' : Nat → γ → ε} {l : List β} {l' : List γ} (h : List.Forall₂ r l l')
    (hf : ∀ i b c, r b c → s (f i b) (f' i c)) : List.Forall₂ s (l.mapIdx f) (l'.mapIdx f') := by
  induction h generalizing f f' with
  | nil => exact .nil
  | cons hhead _ ih =>
    rw [List.mapIdx_cons, List.mapIdx_cons]
    exact .cons (hf 0 _ _ hhead) (ih fun i => hf (i + 1))

theorem rel_zip {β γ δ : Type} {r : β → γ → Prop} {l : List β} {l' : List γ}
    (h : List.Forall₂ r l l') (others : List δ) :
    List.Forall₂ (fun b c => r b.1 c.1 ∧ b.2 = c.2) (l.zip others) (l'.zip others) := by
  induction h generalizing others with
  | nil => exact .nil
  | cons hhead _ ih =>
    cases others with
    | nil => exact .nil
    | cons other rest => exact .cons ⟨hhead, rfl⟩ (ih rest)

namespace Graph

variable {g g' : Graph Float32} {n m : Node Float32}

theorem rel_node? (h : List.Forall₂ Node.Agrees g.nodes g'.nodes) (id : NodeId) :
    Option.Rel Node.Agrees (g.node? id) (g'.node? id) :=
  rel_find? h fun _ _ hagrees => by rw [hagrees.id]

/-- The same node is hit. -/
theorem id_nodeAt? (h : List.Forall₂ Node.Agrees g.nodes g'.nodes) (p : Point Float32) :
    (g.nodeAt? p).map (·.id) = (g'.nodeAt? p).map (·.id) := by
  have hrel : Option.Rel Node.Agrees (g.nodeAt? p) (g'.nodeAt? p) :=
    rel_find? (List.rel_reverse h) fun _ _ hagrees => hagrees.sameBox.rect.contains p
  generalize g.nodeAt? p = hit, g'.nodeAt? p = hit' at hrel ⊢
  cases hrel with
  | none => rfl
  | some hagrees => exact congrArg some hagrees.id

theorem connectorsOf_alike (h : List.Forall₂ Node.Agrees g.nodes g'.nodes) (hagrees : n.Agrees m)
    (hexits : n.SameExits m) :
    List.Forall₂ Connector.Alike (g.connectorsOf n) (g'.connectorsOf m) := by
  have hstop (target : Option NodeId) :
      Option.Rel Point.Alike ((target.bind g.node?).map (·.entrance))
        ((target.bind g'.node?).map (·.entrance)) := by
    cases target with
    | none => exact .none
    | some id =>
      have hrel := rel_node? h id
      rw [Option.bind_some, Option.bind_some]
      generalize g.node? id = found, g'.node? id = found' at hrel ⊢
      cases hrel with
      | none => exact .none
      | some hfound => exact .some hfound.sameBox.entrance
  rw [connectorsOf, connectorsOf, ← hagrees.body]
  refine rel_mapIdx (rel_zip hexits n.body.exits) fun index exit exit' hexit => ?_
  obtain ⟨start, target⟩ := exit
  obtain ⟨start', target'⟩ := exit'
  obtain ⟨hstart, rfl⟩ := hexit
  exact ⟨hagrees.id, rfl, rfl, hstart, hstop target⟩

theorem connectors_alike
    (h : List.Forall₂ (fun n m => n.Agrees m ∧ n.SameExits m) g.nodes g'.nodes) :
    List.Forall₂ Connector.Alike g.connectors g'.connectors :=
  List.rel_flatMap h fun _ _ hnode => connectorsOf_alike (h.imp fun _ _ => And.left) hnode.1 hnode.2

end Graph

/-- **Nodes that are equal have the same box, and the same exits if their text blocks were made in
one way. In graphs that are equal node by node the same node is under a point, and the connectors
are alike if all text blocks were made in one way.** -/
theorem geometry_of_beq {g g' : Graph Float32}
    (h : List.Forall₂ (fun n m => (n == m) = true) g.nodes g'.nodes) :
    List.Forall₂ (fun n m => n.SameBox m ∧ (n.Akin m → n.SameExits m)) g.nodes g'.nodes ∧
    (∀ p, (g.nodeAt? p).map (·.id) = (g'.nodeAt? p).map (·.id)) ∧
    (List.Forall₂ Node.Akin g.nodes g'.nodes →
      List.Forall₂ Connector.Alike g.connectors g'.connectors) := by
  have hagrees : List.Forall₂ Node.Agrees g.nodes g'.nodes :=
    h.imp fun _ _ => Node.agrees_of_beq
  refine ⟨hagrees.imp fun _ _ h => ⟨h.sameBox, h.sameExits_of_akin⟩, Graph.id_nodeAt? hagrees, ?_⟩
  intro hakin
  refine Graph.connectors_alike ?_
  rw [List.forall₂_iff_get] at hagrees hakin ⊢
  refine ⟨hagrees.1, fun i hi hi' => ?_⟩
  have hnode := hagrees.2 i hi hi'
  exact ⟨hnode, hnode.sameExits_of_akin (hakin.2 i hi hi')⟩

/-- A choice that leads to itself. -/
def asked : Node Float32 :=
  .create "a" (.choice { prompt := "hi", entries := [{ text := "go", next := some "a" }] })

/-- The same choice, its zeros negative and its text measured with wider letters. -/
def askedAgain : Node Float32 :=
  Node.layOut (.fixed 9.0) { asked with x := -0.0, y := -0.0 }

theorem geometry_of_beq_asked :
    List.Forall₂ (fun n m => (n == m) = true) [asked] [askedAgain] ∧
      askedAgain.exitAnchors.length = 1 ∧
      List.Forall₂ Connector.Alike (Graph.connectors { nodes := [asked] })
        (Graph.connectors { nodes := [askedAgain] }) := by
  have hequal : List.Forall₂ (fun n m => (n == m) = true) [asked] [askedAgain] :=
    .cons (by decide +kernel) .nil
  have hfits : Node.Fits .standard asked.body :=
    ⟨fun text htext => Option.some.inj htext ▸ (by decide +kernel), by decide⟩
  have hfits' : Node.Fits (.fixed 9.0) askedAgain.body :=
    ⟨fun text htext => Option.some.inj htext ▸ (by decide +kernel), by decide⟩
  have hakin : asked.Akin askedAgain := .laidOutApart (Node.layOut_layOut .standard .standard _)
    (Node.layOut_layOut (.fixed 9.0) (.fixed 9.0) _) hfits hfits'
  exact ⟨hequal, by decide, (geometry_of_beq hequal).2.2 (.cons hakin .nil)⟩

/-! ### A text block that was not made -/

/-- The nodes that a program can come by. -/
inductive Node.Obtained : Node Float32 → Prop
  | created (id : NodeId) (body : Body) : Obtained (.create id body)
  | read {t : Json.Tree} {n : Node Float32} (h : Document.node? t = some n) : Obtained n
  | edited {n : Node Float32} (id : NodeId) (x y : Float32) (body : Body) (height : Float32)
    (h : Obtained n) : Obtained { n with id, x, y, body, height }
  | laidOut {n : Node Float32} (w : Measurer Float32) (h : Obtained n) : Obtained (n.layOut w)

/-- A choice that was read, where it was made by hand, is equal, and its exit is higher. -/
theorem exits_of_equal_nodes_differ :
    ¬ ∀ n m : Node Float32, n.Obtained → m.Obtained → (n == m) = true →
      n.SameBox m ∧ n.SameExits m := by
  intro hall
  have hread : Document.node? (Document.nodeText asked).tree = some (Document.storedNode asked) :=
    (Document.node?_eq_stored_iff (by decide)).mpr (by decide +kernel)
  have hequal : (asked == Document.storedNode asked) = true := by decide +kernel
  obtain ⟨-, hexits⟩ := hall asked (Document.storedNode asked) (.created _ _) (.read hread) hequal
  have hmade : asked.exitAnchors = [⟨200.0, 59.0⟩] := by decide +kernel
  have hunmade : (Document.storedNode asked).exitAnchors = [⟨200.0, 35.0⟩] := by decide +kernel
  rw [Node.SameExits, hmade, hunmade, List.forall₂_cons] at hexits
  have hdiffer : ¬ Number.Alike (59.0 : Float32) 35.0 := by decide +kernel
  exact hdiffer hexits.1.2

end EventGraph
