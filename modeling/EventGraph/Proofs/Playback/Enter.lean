import EventGraph.Proofs.Graph.Lookup
import EventGraph.Proofs.Playback.Move
import EventGraph.Proofs.Script.Tokens

/-!
# Entering nodes

What is done on entering a node is what the rules of a move say of it: a passed node goes on
to the same target with the same state, and a node at which a move stops ends it there.
-/

namespace EventGraph.Story

open Playback

variable {α : Type} {story : Story α} {s s' : State}

theorem showText_eq (s : State) (text : String) :
    s.showText text = { s with text := joinLines s.pendingPrefix text, pendingPrefix := "" } := by
  unfold State.showText joinLines
  by_cases hp : s.pendingPrefix = "" <;> by_cases ht : text = "" <;>
    simp [hp, ht, String.intercalate_cons_cons, String.append_assoc]

theorem joinLines_empty (text : String) : joinLines text "" = text := by
  unfold joinLines
  by_cases h : text = "" <;> simp [h]

/-! ### What keys stand for -/

/-- A token in a text is replaced by what is stored under its key; only where nothing is stored a
variable counts, and a key that is unknown to both stays. The text behind the key is treated in the
same way. -/
theorem substitute_token (story : Story α) (s : State) {front key rest : String}
    (hfront : '@' ∉ front.toList) (hne : key ≠ "")
    (hkey : Script.OpensWith key.toList (key.toList ++ rest.toList)) :
    story.substitute s (front ++ "@" ++ key ++ rest) =
      front ++ (match s.storage.get? key with
        | some v => v.display
        | none => (story.bindings.get? key).getD ("@" ++ key)) ++ story.substitute s rest := by
  have hempty : key.toList.isEmpty = false := by
    rw [List.isEmpty_eq_false_iff, ne_eq, String.toList_eq_nil_iff]
    exact hne
  have htext : (front ++ "@" ++ key ++ rest).toList =
      front.toList ++ '@' :: (key.toList ++ rest.toList) := by simp
  apply String.toList_injective
  simp only [substitute, Script.substitute, htext, Script.substituteChars_append hfront,
    Script.substituteChars_token hkey, Script.lookupKey?, hempty, String.ofList_toList,
    String.toList_append, String.toList_ofList, Bool.false_eq_true, if_false]
  cases s.storage.get? key with
  | some v => simp
  | none => cases story.bindings.get? key <;> simp

/-- The name is stored, whatever the variable says, and the place is a variable. -/
example : ({ graph := {}, bindings := [("name", "nobody"), ("place", "here")] } :
    Story Float32).substitute { storage := ⟨[("name", .string "Ann")]⟩ }
      "@name is @place. @when?" = "Ann is here. @when?" := by
  decide +kernel

/-! ### What the storage decides -/

theorem substitute_congr (h : s.storage = s'.storage) (text : String) :
    story.substitute s text = story.substitute s' text := by
  simp only [substitute, h]

theorem test_congr (h : s.storage = s'.storage) (source : String) :
    story.test s source = story.test s' source := by
  simp only [test, substitute_congr h, h]

theorem offers_congr (h : s.storage = s'.storage) (entries : List ChoiceEntry) :
    story.offers s entries = story.offers s' entries := by
  have hoffer : story.offer? s = story.offer? s' := by
    funext place entry
    simp only [offer?, test_congr h, substitute_congr h]
  simp only [offers, hoffer]

theorem conditionErrors_congr (h : s.storage = s'.storage) (id : NodeId)
    (entries : List ChoiceEntry) :
    story.conditionErrors s id entries = story.conditionErrors s' id entries := by
  simp only [conditionErrors, test_congr h]

theorem test_of_ok {source : String} {b : Bool} (h : story.verdict s source = .ok b) :
    story.test s source = .ok b := by
  unfold verdict at h
  simp only [test, h]

theorem test_of_error {source : String} {fault : Script.Fault}
    (h : story.verdict s source = .error fault) :
    story.test s source = .error (.condition (story.substitute s source) fault) := by
  unfold verdict at h
  simp only [test, h]

theorem runScript_of_run (id : NodeId) {script : String} {storage : Storage}
    {faults : List Script.LineFault}
    (h : Script.run (story.substitute s script) s.storage = (storage, faults)) :
    story.runScript s id script =
      { s with storage, errors := s.errors ++ faults.map (⟨some id, .line ·⟩) } := by
  simp only [runScript, h]

/-! ### Switches -/

theorem branch_of_noneHolds {cases : List SwitchCase} (fallback : Option NodeId)
    (h : story.NoneHolds s cases) (rest : List SwitchCase) :
    story.branch s fallback (cases ++ rest) = story.branch s fallback rest := by
  induction cases with
  | nil => rfl
  | cons c cases ih =>
    have hc := test_of_ok (h c List.mem_cons_self)
    simp only [List.cons_append, branch, hc]
    exact ih fun d hd => h d (List.mem_cons_of_mem c hd)

theorem branch_fallback {cases : List SwitchCase} (fallback : Option NodeId)
    (h : story.NoneHolds s cases) : story.branch s fallback cases = .ok fallback := by
  have hb := branch_of_noneHolds fallback h []
  rwa [List.append_nil] at hb

theorem branch_taken {before : List SwitchCase} {c : SwitchCase} (after : List SwitchCase)
    (fallback : Option NodeId) (h : story.NoneHolds s before)
    (hc : story.verdict s c.condition = .ok true) :
    story.branch s fallback (before ++ c :: after) = .ok c.next := by
  rw [branch_of_noneHolds fallback h]
  simp only [branch, test_of_ok hc]

theorem branch_faulty {before : List SwitchCase} {c : SwitchCase} {fault : Script.Fault}
    (after : List SwitchCase) (fallback : Option NodeId) (h : story.NoneHolds s before)
    (hc : story.verdict s c.condition = .error fault) :
    story.branch s fallback (before ++ c :: after) =
      .error (.condition (story.substitute s c.condition) fault) := by
  rw [branch_of_noneHolds fallback h]
  simp only [branch, test_of_error hc]

/-- Either no case holds, or there is a first one that holds or is faulty. -/
theorem noneHolds_or_first (story : Story α) (s : State) (cases : List SwitchCase) :
    story.NoneHolds s cases ∨ ∃ before c after, cases = before ++ c :: after ∧
      story.NoneHolds s before ∧
      (story.verdict s c.condition = .ok true ∨
        ∃ fault, story.verdict s c.condition = .error fault) := by
  induction cases with
  | nil => exact .inl fun c hc => absurd hc List.not_mem_nil
  | cons c rest ih =>
    have hnil : story.NoneHolds s [] := fun d hd => absurd hd List.not_mem_nil
    cases hc : story.verdict s c.condition with
    | error fault => exact .inr ⟨[], c, rest, rfl, hnil, .inr ⟨fault, hc⟩⟩
    | ok b =>
      cases b with
      | true => exact .inr ⟨[], c, rest, rfl, hnil, .inl hc⟩
      | false =>
        have hcons {ds : List SwitchCase} (h : story.NoneHolds s ds) :
            story.NoneHolds s (c :: ds) := List.forall_mem_cons.mpr ⟨hc, h⟩
        rcases ih with hrest | ⟨before, d, after, rfl, hbefore, hd⟩
        · exact .inl (hcons hrest)
        · exact .inr ⟨c :: before, d, after, rfl, hcons hbefore, hd⟩

/-! ### Choices -/

theorem offer?_of_holds {place : Nat} {entry : ChoiceEntry}
    (h : story.verdict s entry.condition = .ok true) :
    story.offer? s place entry =
      some ⟨place, story.substitute s entry.text, entry.next⟩ := by
  simp only [offer?, test_of_ok h]

theorem offer?_of_fails {place : Nat} {entry : ChoiceEntry}
    (h : story.verdict s entry.condition = .ok false) : story.offer? s place entry = none := by
  simp only [offer?, test_of_ok h]

theorem offer?_of_faulty {place : Nat} {entry : ChoiceEntry} {fault : Script.Fault}
    (h : story.verdict s entry.condition = .error fault) : story.offer? s place entry = none := by
  simp only [offer?, test_of_error h]

theorem mapIdx_offer?_cons (story : Story α) (s : State) (place : Nat) (entry : ChoiceEntry)
    (rest : List ChoiceEntry) :
    ((entry :: rest).mapIdx fun i => story.offer? s (place + i)) =
      story.offer? s place entry :: rest.mapIdx fun i => story.offer? s (place + 1 + i) := by
  simp only [List.mapIdx_cons, Nat.add_zero, Nat.add_assoc, Nat.add_comm 1]

/-- The offers of a choice are read off entry by entry, from any place on. -/
theorem Sifts.offers_eq {place : Nat} {entries : List ChoiceEntry} {offers : List Offer}
    {causes : List Cause} (h : story.Sifts s place entries offers causes) :
    (entries.mapIdx fun i => story.offer? s (place + i)).filterMap id = offers := by
  induction h with
  | nil => rfl
  | offered hv _ ih =>
    rw [mapIdx_offer?_cons, offer?_of_holds hv]
    exact congrArg (List.cons _) ih
  | hidden hv _ ih =>
    rw [mapIdx_offer?_cons, offer?_of_fails hv]
    exact ih
  | faulty hv _ ih =>
    rw [mapIdx_offer?_cons, offer?_of_faulty hv]
    exact ih

theorem Sifts.offers {entries : List ChoiceEntry} {offers : List Offer} {causes : List Cause}
    (h : story.Sifts s 0 entries offers causes) : story.offers s entries = offers := by
  have ho := h.offers_eq
  simp only [Nat.zero_add] at ho
  exact ho

theorem Sifts.errors_eq {place : Nat} {entries : List ChoiceEntry} {offers : List Offer}
    {causes : List Cause} (h : story.Sifts s place entries offers causes) (id : NodeId) :
    story.conditionErrors s id entries = causes.map (⟨some id, ·⟩) := by
  unfold conditionErrors
  induction h with
  | nil => rfl
  | offered hv _ ih => simpa only [List.filterMap_cons, test_of_ok hv] using ih
  | hidden hv _ ih => simpa only [List.filterMap_cons, test_of_ok hv] using ih
  | faulty hv _ ih =>
    simpa only [List.filterMap_cons, test_of_error hv, List.map_cons, List.cons.injEq,
      true_and] using ih

theorem exists_sifts (story : Story α) (s : State) (place : Nat) (entries : List ChoiceEntry) :
    ∃ offers causes, story.Sifts s place entries offers causes := by
  induction entries generalizing place with
  | nil => exact ⟨[], [], .nil⟩
  | cons entry rest ih =>
    obtain ⟨offers, causes, h⟩ := ih (place + 1)
    cases hv : story.verdict s entry.condition with
    | error fault => exact ⟨_, _, .faulty hv h⟩
    | ok b =>
      cases b with
      | true => exact ⟨_, _, .offered hv h⟩
      | false => exact ⟨_, _, .hidden hv h⟩

/-! ### Entering nodes -/

theorem enter_exec {id : NodeId} {n : Node α} {e : Exec} {storage : Storage}
    {faults : List Script.LineFault} (hn : story.graph.node? id = some n)
    (hb : n.body = .exec e)
    (hrun : Script.run (story.substitute s e.script) s.storage = (storage, faults)) :
    story.enter (s.entering id) n =
      let s' := { s.entering id with
        storage, errors := s.errors ++ faults.map (⟨some id, .line ·⟩) }
      let text := story.substitute { s with storage } e.text
      if text = "" then .pass e.next s' else .stop (s'.showText text) := by
  have hs := runScript_of_run (s := s.entering id) id hrun
  simp only [enter, hb, Graph.id_of_node? hn, hs]
  rfl

theorem enter_choice {id : NodeId} {n : Node α} {c : Choice} {offers : List Offer}
    {causes : List Cause} (hn : story.graph.node? id = some n) (hb : n.body = .choice c)
    (hsift : story.Sifts s 0 c.entries offers causes) :
    story.enter (s.entering id) n =
      .stop { s.entering id with
        text := joinLines s.pendingPrefix (story.substitute s c.prompt), pendingPrefix := ""
        offers, errors := s.errors ++ causes.map (⟨some id, ·⟩) } := by
  have hstorage (text : String) : ((s.entering id).showText text).storage = s.storage := by
    rw [showText_eq]
    rfl
  have hoffers (text : String) :
      story.offers ((s.entering id).showText text) c.entries = offers := by
    rw [offers_congr (hstorage text), hsift.offers]
  have herrors (text : String) :
      story.conditionErrors ((s.entering id).showText text) id c.entries =
        causes.map (⟨some id, ·⟩) := by
    rw [conditionErrors_congr (hstorage text), hsift.errors_eq]
  simp only [enter, hb, Graph.id_of_node? hn, hoffers, herrors]
  rw [showText_eq]
  rfl

theorem Passes.enter {id : NodeId} {t : Option NodeId} (h : story.Passes s id t s') :
    ∃ n, story.graph.node? id = some n ∧ story.enter (s.entering id) n = .pass t s' := by
  cases h with
  | @exec n e storage hn hb hrun htext =>
    refine ⟨n, hn, ?_⟩
    rw [enter_exec hn hb hrun]
    simp only [htext, ↓reduceIte, List.map_nil, List.append_nil]
    rfl
  | @taken n b before after c hn hb hcases hbefore hc =>
    refine ⟨n, hn, ?_⟩
    have hbr := branch_taken (s := s.entering id) after b.fallback hbefore hc
    simp only [Story.enter, hb, hcases, hbr]
  | @fallback n b hn hb hnone =>
    refine ⟨n, hn, ?_⟩
    have hbr := branch_fallback (s := s.entering id) b.fallback hnone
    simp only [Story.enter, hb, hbr]

/-- A node at which a move stops either ends the walk or leaves it stuck before its next
target. -/
theorem Stops.enter {id : NodeId} {n : Node α} (h : story.Stops s (some id) s')
    (hn : story.graph.node? id = some n) :
    story.enter (s.entering id) n = .stop s' ∨
      ∃ t, story.enter (s.entering id) n = .pass t s' ∧ s'.isStuck = true := by
  cases h with
  | missing hmissing => exact absurd (Graph.mem_ids_of_node? hn) hmissing
  | @terminal _ m hm hb =>
    obtain rfl : m = n := Option.some.inj (hm.symm.trans hn)
    left
    simp only [Story.enter, hb, showText_eq, joinLines_empty]
    rfl
  | @comment _ m text hm hb =>
    obtain rfl : m = n := Option.some.inj (hm.symm.trans hn)
    left
    simp only [Story.enter, hb, Graph.id_of_node? hn]
    rfl
  | @choice _ m c offers causes hm hb hsift =>
    obtain rfl : m = n := Option.some.inj (hm.symm.trans hn)
    exact .inl (enter_choice hn hb hsift)
  | @shown _ m e storage faults hm hb hrun htext =>
    obtain rfl : m = n := Option.some.inj (hm.symm.trans hn)
    left
    rw [enter_exec hn hb hrun]
    simp only [htext, ↓reduceIte, showText_eq]
    rfl
  | @failed _ m e storage faults hm hb hrun hfaults htext =>
    obtain rfl : m = n := Option.some.inj (hm.symm.trans hn)
    right
    rw [enter_exec hn hb hrun]
    refine ⟨e.next, by simp only [htext, ↓reduceIte], ?_⟩
    simp [State.isStuck, hfaults]
  | @faulty _ m b before after c fault hm hb hcases hbefore hc =>
    obtain rfl : m = n := Option.some.inj (hm.symm.trans hn)
    left
    have hbr := branch_faulty (s := s.entering id) after b.fallback hbefore hc
    simp only [Story.enter, hb, hcases, hbr, Graph.id_of_node? hn]
    rfl

/-- Every node of the graph is either passed or stopped at. -/
theorem passes_or_stops {id : NodeId} {n : Node α} (s : State)
    (hn : story.graph.node? id = some n) :
    (∃ t s', story.Passes s id t s') ∨ ∃ s', story.Stops s (some id) s' := by
  cases hb : n.body with
  | exec e =>
    rcases hrun : Script.run (story.substitute s e.script) s.storage with ⟨storage, faults⟩
    by_cases htext : story.substitute { s with storage } e.text = ""
    · cases faults with
      | nil => exact .inl ⟨_, _, .exec hn hb hrun htext⟩
      | cons f fs => exact .inr ⟨_, .failed hn hb hrun (List.cons_ne_nil f fs) htext⟩
    · exact .inr ⟨_, .shown hn hb hrun htext⟩
  | choice c =>
    obtain ⟨offers, causes, hsift⟩ := exists_sifts story s 0 c.entries
    exact .inr ⟨_, .choice hn hb hsift⟩
  | switch b =>
    rcases noneHolds_or_first story s b.cases with
      hnone | ⟨before, c, after, hcases, hbefore, hc | ⟨fault, hc⟩⟩
    · exact .inl ⟨_, _, .fallback hn hb hnone⟩
    · exact .inl ⟨_, _, .taken hn hb hcases hbefore hc⟩
    · exact .inr ⟨_, .faulty hn hb hcases hbefore hc⟩
  | terminal => exact .inr ⟨_, .terminal hn hb⟩
  | comment text => exact .inr ⟨_, .comment hn hb⟩

end EventGraph.Story
