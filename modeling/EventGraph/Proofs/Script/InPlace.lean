import EventGraph.Script.Action

/-!
# Actions in place

An action is executed on a storage in place: whether it returns or fails, some storage is left. An
action that fails has changed nothing, since its only write comes after all that it can fail with.
A script in place goes on with what a failing line has left.
-/

namespace EventGraph.Script

/-- What is done to a storage in place. A storage is left where it fails too. -/
abbrev InPlace : Type → Type := EStateM Fault Storage

namespace InPlace

def checkKey (c : Command) (key : String) : InPlace Unit := do
  if key = "" then throw (.emptyKey c.name)

def readValue (key : String) : InPlace (Option Json) := do
  checkKey .get key
  return some (((← get).get? key).getD .null)

def setBoolean (key arg : String) : InPlace (Option Json) := do
  checkKey .setBoolean key
  let value ←
    if arg = "true" then pure true
    else if arg = "false" then pure false
    else throw (.notBoolean Command.setBoolean.name arg)
  modify (·.set key (.bool value))
  return none

def setNumber (key arg : String) : InPlace (Option Json) := do
  checkKey .setNumber key
  let some x := Number.finiteFloat? arg.toList | throw (.notNumber Command.setNumber.name arg)
  modify (·.set key (.ofNumber x))
  return none

def setString (key arg : String) : InPlace (Option Json) := do
  checkKey .setString key
  modify (·.set key (.string (unquote arg)))
  return none

def changeNumber (key arg : String) : InPlace (Option Json) := do
  checkKey .modify key
  let current := ((← get).get? key).getD .null
  let some base := current.asNumber? | throw (.notNumber Command.modify.name current.display)
  let operand := resolve (← get) arg
  let some delta := operand.asNumber? | throw (.notNumber Command.modify.name operand.display)
  modify (·.set key (.ofNumber (base + delta)))
  return none

def perform : Command → List String → InPlace (Option Json)
  | .get, [key] => readValue key
  | .setBoolean, [key, arg] => setBoolean key arg
  | .setNumber, [key, arg] => setNumber key arg
  | .setString, [key, arg] => setString key arg
  | .modify, [key, arg] => changeNumber key arg
  | c, args => throw (.arity c.name c.arity args.length)

def execute (line : String) : InPlace (Option Json) := do
  let call ← MonadExcept.ofExcept (Call.parse line)
  let some c := Command.ofName? call.name | throw (.unknownFunction call.name)
  perform c call.args

end InPlace

def runLinesInPlace (number : Nat) : List (List Char) → Storage → Storage × List LineFault
  | [], s => (s, [])
  | line :: rest, s =>
    if line.all Text.isBlank then runLinesInPlace (number + 1) rest s
    else match (InPlace.execute (String.ofList line)).run s with
      | .ok _ s => runLinesInPlace (number + 1) rest s
      | .error fault s =>
        let (s, faults) := runLinesInPlace (number + 1) rest s
        (s, ⟨number, fault⟩ :: faults)

def runInPlace (script : String) (s : Storage) : Storage × List LineFault :=
  runLinesInPlace 1 (Text.lines script.toList) s

/-- The result of an action that leaves the storage as it was where it fails. -/
def leaving (s : Storage) : Except Fault Effect → EStateM.Result Fault Storage (Option Json)
  | .ok effect => .ok effect.value? effect.storage
  | .error fault => .error fault s

variable {s s' : Storage} {line : String} {fault : Fault}

theorem leaving_eq_error_iff {r : Except Fault Effect} :
    leaving s r = .error fault s' ↔ r = .error fault ∧ s' = s := by
  cases r <;> simp [leaving, eq_comm]

/-! In place, an action comes to what it comes to as a function of the storage. -/

theorem run_checkKey_bind {α : Type} (c : Command) (key : String) (x : InPlace α) (s : Storage) :
    (InPlace.checkKey c key >>= fun _ => x).run s =
      if key = "" then EStateM.Result.error (.emptyKey c.name) s else x.run s := by
  unfold InPlace.checkKey
  split <;> rfl

theorem run_readValue (key : String) (s : Storage) :
    (InPlace.readValue key).run s = leaving s (Command.get.run s [key]) := by
  rw [InPlace.readValue, run_checkKey_bind, Command.run]
  split <;> rfl

theorem run_setBoolean (key arg : String) (s : Storage) :
    (InPlace.setBoolean key arg).run s = leaving s (Command.setBoolean.run s [key, arg]) := by
  rw [InPlace.setBoolean, run_checkKey_bind, Command.run, Command.newValue]
  · split
    · rfl
    · by_cases htrue : arg = "true"
      · rw [if_pos htrue, if_pos htrue]
        rfl
      · rw [if_neg htrue, if_neg htrue]
        split <;> rfl
  · rintro ⟨⟩

theorem run_setNumber (key arg : String) (s : Storage) :
    (InPlace.setNumber key arg).run s = leaving s (Command.setNumber.run s [key, arg]) := by
  rw [InPlace.setNumber, run_checkKey_bind, Command.run, Command.newValue]
  · cases Number.finiteFloat? arg.toList <;> split <;> rfl
  · rintro ⟨⟩

theorem run_setString (key arg : String) (s : Storage) :
    (InPlace.setString key arg).run s = leaving s (Command.setString.run s [key, arg]) := by
  rw [InPlace.setString, run_checkKey_bind, Command.run]
  · split <;> rfl
  · rintro ⟨⟩

theorem run_changeNumber (key arg : String) (s : Storage) :
    (InPlace.changeNumber key arg).run s = leaving s (Command.modify.run s [key, arg]) := by
  rw [InPlace.changeNumber, run_checkKey_bind, Command.run, Command.newValue]
  · split
    · rfl
    · simp only [EStateM.run_bind, EStateM.run_get]
      cases ((s.get? key).getD .null).asNumber? with
      | none => rfl
      | some base =>
        simp only [EStateM.run_bind, EStateM.run_get]
        cases (resolve s arg).asNumber? <;> rfl
  · rintro ⟨⟩

theorem run_perform (c : Command) (args : List String) (s : Storage) :
    (InPlace.perform c args).run s = leaving s (c.run s args) := by
  fun_cases InPlace.perform c args with
  | case1 key => exact run_readValue key s
  | case2 key arg => exact run_setBoolean key arg s
  | case3 key arg => exact run_setNumber key arg s
  | case4 key arg => exact run_setString key arg s
  | case5 key arg => exact run_changeNumber key arg s
  | case6 c args hget hboolean hnumber hstring hmodify =>
    have hpair {key arg : String} (hc : c ≠ .get) : args ≠ [key, arg] := by
      rintro rfl
      cases c with
      | get => exact hc rfl
      | setBoolean => exact hboolean key arg rfl rfl
      | setNumber => exact hnumber key arg rfl rfl
      | setString => exact hstring key arg rfl rfl
      | modify => exact hmodify key arg rfl rfl
    fun_cases Command.run c s args with
    | case1 => exact (hget _ rfl rfl).elim
    | case2 => exact (hget _ rfl rfl).elim
    | case3 => rfl
    | case4 _ _ hc => exact (hpair hc rfl).elim
    | case5 _ _ _ _ hc => exact (hpair hc rfl).elim
    | case6 => rfl

theorem run_execute (line : String) (s : Storage) :
    (InPlace.execute line).run s = leaving s (runAction line s) := by
  unfold InPlace.execute runAction
  cases Call.parse line with
  | error fault => rfl
  | ok call =>
    have hplace : (MonadExcept.ofExcept (.ok call) : InPlace Call) = pure call := rfl
    rw [hplace, pure_bind]
    simp only [bind, Except.bind]
    cases Command.ofName? call.name with
    | none => rfl
    | some c => exact run_perform c call.args s

/-- An action that fails leaves the storage as it was. -/
theorem run_execute_eq_error_iff :
    (InPlace.execute line).run s = .error fault s' ↔ runAction line s = .error fault ∧ s' = s := by
  rw [run_execute, leaving_eq_error_iff]

theorem runLinesInPlace_eq (number : Nat) (lines : List (List Char)) (s : Storage) :
    runLinesInPlace number lines s = runLines number lines s := by
  induction lines generalizing number s with
  | nil => rfl
  | cons line rest ih =>
    rw [runLinesInPlace, runLines, run_execute]
    split
    · exact ih (number + 1) s
    · cases runAction (String.ofList line) s with
      | ok effect => exact ih (number + 1) effect.storage
      | error fault => simp only [leaving, ih]

theorem runInPlace_eq (script : String) (s : Storage) : runInPlace script s = run script s :=
  runLinesInPlace_eq 1 _ s

end EventGraph.Script
