import EventGraph.Proofs.Script.Numbers

/-!
# Arithmetic in scripts

A line that sets a number or adds to one stores a number, and it can be added to again, as long as
the sum is finite. The sum of two finite numbers may be beyond the greatest double: then null is
stored, and every later addition at that key fails.
-/

namespace EventGraph.Script

/-- The number that a call computes in a storage: the one that it sets, or the sum of the one that
is stored and the one that its argument stands for. -/
inductive Computes (s : Storage) : Call → Float → Prop
  | set {key arg : String} {x : Float} :
      Number.finiteFloat? arg.toList = some x → Computes s ⟨"SET_NUM", [key, arg]⟩ x
  | sum {key arg : String} {base : Json} {x y : Float} :
      s.get? key = some base → base.asNumber? = some x → (resolve s arg).asNumber? = some y →
      Computes s ⟨"MOD", [key, arg]⟩ (x + y)

/-- A JSON number is stored at a path, and it is equal to a given one. -/
def Stored (s : Storage) (path : String) (x : Float) : Prop :=
  ∃ v y, s.get? path = some v ∧ v.IsNumber ∧ v.asNumber? = some y ∧ (y == x) = true

variable {s : Storage} {line key arg : String} {effect : Effect} {x : Float}

theorem asNumber?_getD_eq_some {found : Option Json}
    (h : (found.getD .null).asNumber? = some x) :
    ∃ v, found = some v ∧ v.asNumber? = some x := by
  cases found with
  | none => cases h
  | some v => exact ⟨v, rfl, h⟩

/-- A line that sets a number or adds to one and returns has stored what it computes. -/
theorem exists_computes {call : Call} (hparse : Call.parse line = .ok call)
    (hname : call.name = "SET_NUM" ∨ call.name = "MOD") (hrun : runAction line s = .ok effect) :
    ∃ key arg x, call.args = [key, arg] ∧ key ≠ "" ∧ Computes s call x ∧
      effect = ⟨s.set key (.ofNumber x), none⟩ := by
  obtain ⟨name, args⟩ := call
  rcases hname with rfl | rfl
  · obtain ⟨key, arg, v, rfl, hkey, hv, rfl⟩ :=
      exists_newValue_of_runAction (c := .setNumber) hparse rfl (by decide) hrun
    rw [Command.newValue_setNumber] at hv
    split at hv
    · rename_i x hx
      obtain rfl := Except.ok.inj hv
      exact ⟨key, arg, x, rfl, hkey, .set hx, rfl⟩
    · cases hv
  · obtain ⟨key, arg, v, rfl, hkey, hv, rfl⟩ :=
      exists_newValue_of_runAction (c := .modify) hparse rfl (by decide) hrun
    rw [Command.newValue_modify] at hv
    split at hv
    · rename_i x y hx hy
      obtain rfl := Except.ok.inj hv
      obtain ⟨base, hbase, hnumber⟩ := asNumber?_getD_eq_some hx
      exact ⟨key, arg, x + y, rfl, hkey, .sum hbase hnumber hy, rfl⟩
    · cases hv
    · cases hv

theorem stored_ofNumber (h : x.isFinite = true) (s : Storage) (key : String) :
    Stored (s.set key (.ofNumber x)) key x := by
  obtain ⟨hnumber, y, hy, hequal⟩ := Json.ofNumber_of_isFinite h
  exact ⟨_, y, s.get?_set_self key _, hnumber, hy, hequal⟩

theorem runAction_modify (hparse : Call.parse line = .ok ⟨"MOD", [key, arg]⟩) (hkey : key ≠ "")
    (s : Storage) : runAction line s =
      (Command.modify.newValue s key arg).map fun v => ⟨s.set key v, none⟩ := by
  have hrun := Command.run_of_ne_get (c := .modify) (by decide) s key arg
  rw [if_neg hkey] at hrun
  exact (runAction_of_parse (c := .modify) hparse rfl s).trans hrun

/-- An addition to a number that is stored returns, and otherwise it names what is not a number. -/
theorem runAction_modify_of_stored (hparse : Call.parse line = .ok ⟨"MOD", [key, arg]⟩)
    (hkey : key ≠ "") (h : Stored s key x) : (∃ effect, runAction line s = .ok effect) ↔
      ∃ y, (resolve s arg).asNumber? = some y := by
  obtain ⟨v, y, hget, -, hy, -⟩ := h
  have hbase : ((s.get? key).getD .null).asNumber? = some y := by
    rw [hget]
    exact hy
  rw [runAction_modify hparse hkey, Command.newValue_modify, hbase]
  cases (resolve s arg).asNumber? with
  | none => simp [Except.map]
  | some z => simp [Except.map]

/-- **A line that sets a number or adds to one, and returns, stores a JSON number that is equal to
what it computes, if that is finite. To this number another can be added again. What is set is
always finite. Where a sum is not, null is stored instead, and every further addition at that key
fails.** -/
theorem arithmetic_stores {call : Call} (hparse : Call.parse line = .ok call)
    (hname : call.name = "SET_NUM" ∨ call.name = "MOD") (hrun : runAction line s = .ok effect) :
    ∃ key arg x, call.args = [key, arg] ∧ Computes s call x ∧
      (x.isFinite = true ↔ Stored effect.storage key x) ∧
      (x.isFinite = false ↔ effect.storage.get? key = some .null) ∧
      (call.name = "SET_NUM" → x.isFinite = true) ∧
      ∀ next delta, Call.parse next = .ok ⟨"MOD", [key, delta]⟩ →
        (x.isFinite = true → ((∃ after, runAction next effect.storage = .ok after) ↔
          ∃ y, (resolve effect.storage delta).asNumber? = some y)) ∧
        (x.isFinite = false → runAction next effect.storage = .error (.notNumber "MOD" "")) := by
  obtain ⟨key, arg, x, hargs, hkey, hcomputes, rfl⟩ := exists_computes hparse hname hrun
  have hget : (s.set key (.ofNumber x)).get? key = some (.ofNumber x) := s.get?_set_self key _
  have hstored : x.isFinite = true → Stored (s.set key (.ofNumber x)) key x :=
    fun h => stored_ofNumber h s key
  have hnull : x.isFinite = false → (s.set key (.ofNumber x)).get? key = some .null :=
    fun h => Json.ofNumber_of_not_isFinite h ▸ hget
  have hexclusive : Stored (s.set key (.ofNumber x)) key x →
      (s.set key (.ofNumber x)).get? key ≠ some .null := by
    rintro ⟨v, y, hv, hnumber, -⟩ hnone
    obtain rfl := Option.some.inj (hv.symm.trans hnone)
    cases hnumber
  refine ⟨key, arg, x, hargs, hcomputes, ⟨hstored, ?finite⟩, ⟨hnull, ?beyond⟩, ?set, ?next⟩
  case finite =>
    intro h
    rw [← Bool.not_eq_false]
    exact fun hbeyond => hexclusive h (hnull hbeyond)
  case beyond =>
    intro h
    rw [← Bool.not_eq_true]
    exact fun hfinite => hexclusive (hstored hfinite) h
  case set =>
    intro hset
    cases hcomputes with
    | set hx => exact Json.isFinite_of_finiteFloat? hx
    | sum => exact absurd hset (show ¬ "MOD" = "SET_NUM" by decide)
  case next =>
    intro next delta hnext
    refine ⟨fun h => runAction_modify_of_stored hnext hkey (hstored h), fun h => ?_⟩
    have hbase : (((s.set key (.ofNumber x)).get? key).getD .null) = .null := by rw [hnull h]; rfl
    rw [runAction_modify hnext hkey, Command.newValue_modify, hbase]
    rfl

/-- A gauge that stands at more than half of the greatest double. -/
def gauge : Storage := ⟨[("level", .float (Float.ofBits 0x7FE1CCF385EBC8A0))]⟩

theorem sound_gauge : gauge.Sound := by
  refine .object (List.pairwise_singleton _ _) (List.forall_mem_singleton.mpr ?_)
  exact .float (by decide +kernel)

theorem parse_double : Call.parse "MOD(level, level)" = .ok ⟨"MOD", ["level", "level"]⟩ := by
  decide +kernel

theorem double_gauge :
    runAction "MOD(level, level)" gauge = .ok ⟨⟨[("level", .null)]⟩, none⟩ := rfl

/-- Twice the gauge is beyond every double, so null is stored and nothing can be added to it. -/
theorem arithmetic_stores_gauge :
    Call.parse "MOD(level, level)" = .ok ⟨"MOD", ["level", "level"]⟩ ∧
    ∃ effect, runAction "MOD(level, level)" gauge = .ok effect ∧
      effect.storage.get? "level" = some .null ∧
      runAction "MOD(level, -1)" effect.storage = .error (.notNumber "MOD" "") := by
  obtain ⟨key, arg, x, hargs, -, -, hnull, -, hnext⟩ :=
    arithmetic_stores parse_double (.inr rfl) double_gauge
  obtain ⟨rfl, rfl⟩ : key = "level" ∧ arg = "level" := by simpa [eq_comm] using hargs
  have hbeyond : x.isFinite = false := hnull.mpr rfl
  have hlower : Call.parse "MOD(level, -1)" = .ok ⟨"MOD", ["level", "-1"]⟩ := by decide +kernel
  exact ⟨parse_double, _, double_gauge, hnull.mp hbeyond, (hnext _ _ hlower).2 hbeyond⟩

/-- Not every line that adds to a number and returns stores a number. -/
theorem not_always_number : ¬ ∀ (s : SoundStorage) (line key arg : String) (effect : Effect),
    Call.parse line = .ok ⟨"MOD", [key, arg]⟩ → runAction line s = .ok effect →
      ∃ v, effect.storage.get? key = some v ∧ v.IsNumber := by
  intro h
  obtain ⟨v, hv, hnumber⟩ := h ⟨gauge, sound_gauge⟩ _ _ _ _ parse_double double_gauge
  have hnull : Storage.get? ⟨[("level", .null)]⟩ "level" = some .null := rfl
  obtain rfl := Option.some.inj (hv.symm.trans hnull)
  cases hnumber

end EventGraph.Script
