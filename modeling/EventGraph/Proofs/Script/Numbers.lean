import EventGraph.Proofs.Number.Whole
import EventGraph.Proofs.Script.Blanking
import EventGraph.Proofs.Storage.Overwriting

/-!
# Numbers in scripts

A finite double is kept as a value that reads as an equal number, whether it is whole or not. Any
other is kept as null. What scripts store is sound, so no number that they read differs from itself.
-/

namespace EventGraph

namespace Json

/-- A value that is written as a number: a whole one, or a finite float. -/
inductive IsNumber : Json → Prop
  | int (n : Int) : IsNumber (.int n)
  | float {x : Float} : x.isFinite = true → IsNumber (.float x)

variable {x y : Float} {v : Json}

theorem beq_self_of_isFinite (h : x.isFinite = true) : (x == x) = true :=
  Number.beq_self_of_ne_notANumber (Number.ne_notANumber_of_isFinite h)

theorem ofNumber_of_isFinite (h : x.isFinite = true) :
    (ofNumber x).IsNumber ∧ ∃ y, (ofNumber x).asNumber? = some y ∧ (y == x) = true := by
  rw [ofNumber]
  split
  · rename_i n hn
    split
    · rename_i hlt
      exact ⟨.int n, Float.ofInt n, rfl, Number.ofInt_beq hn hlt⟩
    · exact ⟨.float h, x, rfl, beq_self_of_isFinite h⟩
  · rw [if_pos h]
    exact ⟨.float h, x, rfl, beq_self_of_isFinite h⟩

theorem ofNumber_of_not_isFinite (h : x.isFinite = false) : ofNumber x = .null := by
  have hwhole : (Number.Exact.ofFloat x).toInt? = none := by
    change x.toModel.unpack.isFinite = false at h
    rw [Number.ofFloat_eq]
    cases hx : x.toModel.unpack with
    | notANumber | infinity => rfl
    | zero | finite =>
      rw [hx] at h
      cases h
  rw [ofNumber, hwhole]
  exact if_neg (by rw [h]; decide)

theorem sound_ofNumber (x : Float) : (ofNumber x).Sound := by
  cases h : x.isFinite with
  | false =>
    rw [ofNumber_of_not_isFinite h]
    exact .null
  | true =>
    obtain ⟨hnumber, -⟩ := ofNumber_of_isFinite h
    cases hv : ofNumber x with
    | int n => exact .int n
    | float y =>
      rw [hv] at hnumber
      cases hnumber with
      | float hy => exact .float hy
    | null | bool | string | array | object =>
      rw [hv] at hnumber
      cases hnumber

theorem isFinite_of_finiteFloat? {cs : List Char} (h : Number.finiteFloat? cs = some x) :
    x.isFinite = true := by
  rw [Number.finiteFloat?] at h
  split at h
  · split at h
    · rename_i hfinite
      exact Option.some.inj h ▸ hfinite
    · cases h
  · cases h

/-- What is read as a number off a sound value is one. -/
theorem Sound.ne_notANumber (h : v.Sound) (hx : v.asNumber? = some x) :
    x.toModel.unpack ≠ .notANumber := by
  cases v with
  | int n =>
    obtain rfl := Option.some.inj hx
    exact Number.unpack_ofInt_ne_notANumber n
  | float y =>
    obtain rfl := Option.some.inj hx
    cases h with
    | float hfinite => exact Number.ne_notANumber_of_isFinite hfinite
  | string s => exact Number.ne_notANumber_of_isFinite (isFinite_of_finiteFloat? hx)
  | null | bool | array | object => cases hx

end Json

/-! ### Sound storages -/

theorem Storage.Sound.get? {s : Storage} {path : String} {v : Json} (h : s.Sound)
    (hget : s.get? path = some v) : v.Sound := by
  have hfollow : ∀ (keys : List String) {u : Json}, u.Sound → follow? keys u = some v →
      v.Sound := by
    intro keys
    induction keys with
    | nil =>
      intro u hu hv
      exact Option.some.inj hv ▸ hu
    | cons key keys ih =>
      intro u hu hv
      cases u with
      | object fields =>
        obtain ⟨inner, hfield, hinner⟩ := Option.bind_eq_some_iff.mp hv
        exact ih (Json.Sound.field? hu hfield) hinner
      | _ => cases hv
  exact hfollow (segments path) h hget

namespace Script

variable {s : Storage} {key arg line : String} {v : Json} {effect : Effect}

theorem sound_literal (arg : String) : (literal arg).Sound := by
  rw [literal]
  split
  · exact .string _
  · split
    · exact .bool true
    · split
      · exact .bool false
      · split
        · exact Json.sound_ofNumber _
        · exact .string _

theorem sound_resolve (s : SoundStorage) (arg : String) : (resolve s arg).Sound := by
  rw [resolve]
  cases hget : s.get? arg with
  | none => exact sound_literal arg
  | some v => exact s.sound.get? hget

/-! ### Writing commands -/

namespace Command

theorem newValue_modify (s : Storage) (key arg : String) : Command.modify.newValue s key arg =
    match ((s.get? key).getD .null).asNumber?, (resolve s arg).asNumber? with
    | some x, some y => .ok (.ofNumber (x + y))
    | some _, none => .error (.notNumber "MOD" (resolve s arg).display)
    | none, _ => .error (.notNumber "MOD" ((s.get? key).getD .null).display) := by
  rw [newValue]
  dsimp only
  cases ((s.get? key).getD .null).asNumber? with
  | none => rfl
  | some x => cases (resolve s arg).asNumber? <;> rfl

theorem newValue_setNumber (s : Storage) (key arg : String) :
    Command.setNumber.newValue s key arg =
      match Number.finiteFloat? arg.toList with
      | some x => .ok (.ofNumber x)
      | none => .error (.notNumber "SET_NUM" arg) := rfl

theorem run_of_ne_get {c : Command} (hc : c ≠ .get) (s : Storage) (key arg : String) :
    c.run s [key, arg] = if key = "" then .error (.emptyKey c.name)
      else (c.newValue s key arg).map fun v => ⟨s.set key v, none⟩ := by
  cases c with
  | get => exact absurd rfl hc
  | setBoolean | setNumber | setString | modify => rfl

/-- A command that writes and returns has written a new value under its key. -/
theorem exists_of_run_eq_ok {c : Command} {args : List String} (hc : c ≠ .get)
    (h : c.run s args = .ok effect) : ∃ key arg v, args = [key, arg] ∧ key ≠ "" ∧
      c.newValue s key arg = .ok v ∧ effect = ⟨s.set key v, none⟩ := by
  obtain ⟨key, arg, rfl⟩ : ∃ key arg, args = [key, arg] := by
    rcases args with _ | ⟨key, _ | ⟨arg, _ | ⟨more, rest⟩⟩⟩
    case cons.cons.nil => exact ⟨key, arg, rfl⟩
    all_goals cases c <;> first | exact absurd rfl hc | cases h
  rw [run_of_ne_get hc] at h
  split at h
  · cases h
  · rename_i hkey
    cases hv : c.newValue s key arg with
    | error fault =>
      rw [hv] at h
      cases h
    | ok v =>
      rw [hv] at h
      exact ⟨key, arg, v, rfl, hkey, hv, (Except.ok.inj h).symm⟩

theorem sound_newValue {c : Command} (h : c.newValue s key arg = .ok v) : v.Sound := by
  cases c with
  | get | setString =>
    obtain rfl := Except.ok.inj h
    exact .string _
  | setBoolean =>
    rw [newValue] at h
    split at h
    · exact Except.ok.inj h ▸ .bool true
    · split at h
      · exact Except.ok.inj h ▸ .bool false
      · cases h
  | setNumber =>
    rw [newValue_setNumber] at h
    split at h
    · exact Except.ok.inj h ▸ Json.sound_ofNumber _
    · cases h
  | modify =>
    rw [newValue_modify] at h
    split at h
    · exact Except.ok.inj h ▸ Json.sound_ofNumber _
    · cases h
    · cases h

end Command

/-! ### Actions -/

theorem runAction_of_parse {call : Call} {c : Command} (hparse : Call.parse line = .ok call)
    (hname : Command.ofName? call.name = some c) (s : Storage) :
    runAction line s = c.run s call.args := by
  rw [runAction, hparse]
  simp only [bind, Except.bind, hname]

theorem exists_of_runAction_eq_ok (h : runAction line s = .ok effect) :
    ∃ call c, Call.parse line = .ok call ∧ Command.ofName? call.name = some c ∧
      c.run s call.args = .ok effect := by
  cases hparse : Call.parse line with
  | error fault =>
    rw [runAction, hparse] at h
    cases h
  | ok call =>
    cases hname : Command.ofName? call.name with
    | none =>
      rw [runAction, hparse] at h
      simp only [bind, Except.bind, hname] at h
      cases h
    | some c =>
      rw [runAction_of_parse hparse hname] at h
      exact ⟨call, c, rfl, hname, h⟩

/-- An action line of a command that writes, and returns, has written a new value. -/
theorem exists_newValue_of_runAction {call : Call} {c : Command}
    (hparse : Call.parse line = .ok call) (hname : Command.ofName? call.name = some c)
    (hc : c ≠ .get) (h : runAction line s = .ok effect) :
    ∃ key arg v, call.args = [key, arg] ∧ key ≠ "" ∧ c.newValue s key arg = .ok v ∧
      effect = ⟨s.set key v, none⟩ := by
  rw [runAction_of_parse hparse hname] at h
  exact Command.exists_of_run_eq_ok hc h

theorem Command.run_get_storage {args : List String} (h : Command.get.run s args = .ok effect) :
    effect.storage = s := by
  rw [Command.run.eq_def] at h
  split at h
  · split at h
    · cases h
    · exact (congrArg Effect.storage (Except.ok.inj h)).symm
  · cases h
  · rename_i hne
    exact absurd rfl hne
  · cases h

theorem sound_runAction (hs : s.Sound) (h : runAction line s = .ok effect) :
    effect.storage.Sound := by
  obtain ⟨call, c, -, -, hrun⟩ := exists_of_runAction_eq_ok h
  by_cases hc : c = .get
  · subst hc
    rw [Command.run_get_storage hrun]
    exact hs
  · obtain ⟨key, arg, v, -, -, hv, rfl⟩ := Command.exists_of_run_eq_ok hc hrun
    exact hs.set (Command.sound_newValue hv) key

theorem Runs.sound {number : Nat} {lines : List (List Char)} {s' : Storage}
    {faults : List LineFault} (h : Runs number lines s s' faults) (hs : s.Sound) : s'.Sound := by
  induction h with
  | nil => exact hs
  | blank _ _ ih => exact ih hs
  | done _ haction _ ih => exact ih (sound_runAction hs haction)
  | failed _ _ _ ih => exact ih hs

/-- A script leaves a sound storage sound, whichever of its lines fail. -/
theorem sound_run (hs : s.Sound) (script : String) : (run script s).1.Sound :=
  (runs_runLines 1 _ s).sound hs

end Script

/-- The storage after a script. -/
def SoundStorage.run (s : SoundStorage) (script : String) : SoundStorage where
  toStorage := (Script.run script s).1
  sound := Script.sound_run s.sound script

end EventGraph
