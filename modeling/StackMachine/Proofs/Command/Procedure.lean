import StackMachine.Command.Dispatch
import StackMachine.Proofs.Machine.Storing

/-!
# Carrying commands out

What a command comes to in a world, part by part. Reading a text file leaves the world as it is, and
what is made of it is a function of the files (`Files.parsed`). The command that writes an image is
given in full: it succeeds if the listing can be read, is a valid program and can be written, and
changes the world in no other case (`Procedure.assembly_carryOut`).
-/

namespace StackMachine

variable {mw : Meanwhile} {w : World} {α β σ : Type}

namespace Procedure

/-- What a command, or a part of one, comes to. -/
def carryOut (p : Procedure α) (mw : Meanwhile) (w : World) : Except CommandFailure α × World :=
  (ExceptT.run p).perform mw w

@[simp] theorem carryOut_pure (a : α) : carryOut (pure a) mw w = (.ok a, w) := rfl

@[simp] theorem carryOut_throw (cause : CommandFailure) :
    carryOut (throw cause : Procedure α) mw w = (.error cause, w) := rfl

@[simp] theorem carryOut_action (a : Action α) :
    carryOut (liftM a : Procedure α) mw w = (.ok (a.perform mw w).1, (a.perform mw w).2) :=
  Action.perform_bind mw a _ w

/-- A command in two parts is carried out part by part, unless the first one fails. -/
@[simp] theorem carryOut_bind (p : Procedure α) (f : α → Procedure β) :
    carryOut (p >>= f) mw w =
      match carryOut p mw w with
      | (.ok x, w) => carryOut (f x) mw w
      | (.error cause, w) => (.error cause, w) := by
  refine (Action.perform_bind mw (ExceptT.run p) _ w).trans ?_
  unfold carryOut
  rcases (ExceptT.run p).perform mw w with ⟨cause | x, w⟩
  · rfl
  · rfl

/-- An action with failures of another kind. -/
theorem carryOut_adapt {ε : Type} (a : ExceptT ε Action α) (f : ε → CommandFailure) :
    carryOut (a.adapt f) mw w = ((a.run.perform mw w).1.mapError f, (a.run.perform mw w).2) :=
  Action.perform_map mw _ a.run w

@[simp] theorem carryOut_ofAttempt (a : Attempt α) :
    carryOut (ofAttempt a) mw w = ((a.carryOut mw w).1.mapError .machine, (a.carryOut mw w).2) :=
  carryOut_adapt a .machine

/-- To ask a machine in a command gives the answer and the machine after it. -/
@[simp] theorem carryOut_ofOperation (op : Operation σ α) (machine : σ) :
    carryOut (ofOperation op machine) mw w =
      match op.carryOut mw machine w with
      | ((.ok a, machine), w) => (.ok (a, machine), w)
      | ((.error cause, _), w) => (.error (.machine cause), w) := by
  unfold ofOperation
  rw [carryOut_bind, carryOut_action]
  unfold Operation.carryOut
  rcases (op.on machine).perform mw w with ⟨⟨cause | a, after⟩, w⟩
  · rfl
  · rfl

end Procedure

/-! ### Text files -/

namespace Files

def text (files : Files) (path : String) : Except CommandFailure String :=
  match files.read path with
  | .error cause => .error (.file cause)
  | .ok bytes =>
    match String.fromUTF8? bytes with
    | some text => .ok text
    | none => .error (.file .notText)

/-- What a reader makes of the text that a file holds. -/
def parsed (files : Files) (parse : String → Except Toml.Fault α) (path : String) :
    Except CommandFailure α :=
  match files.text path with
  | .error cause => .error cause
  | .ok text => (parse text).mapError .text

end Files

/-- The settings of an invocation: those of the file it names, or the default. -/
def Invocation.settingsIn (invocation : Invocation) (files : Files) :
    Except CommandFailure Settings :=
  match invocation.settings with
  | some path => files.parsed Settings.parse path
  | none => .ok .default

namespace Procedure

/-- To read a text changes nothing. -/
theorem readText_carryOut (path : String) :
    (readText path).carryOut mw w = (w.files.text path, w) := by
  unfold readText Files.text
  rw [carryOut_bind, carryOut_action]
  simp only [readFile, Action.perform, World.read]
  cases w.files.read path with
  | error cause => rfl
  | ok bytes =>
    simp only
    cases String.fromUTF8? bytes <;> rfl

/-- Nor does it matter what is made of the text. -/
theorem readParsed_carryOut (parse : String → Except Toml.Fault α) (path : String) :
    (readParsed parse path).carryOut mw w = (w.files.parsed parse path, w) := by
  unfold readParsed Files.parsed
  rw [carryOut_bind, readText_carryOut]
  cases w.files.text path with
  | error cause => rfl
  | ok text =>
    simp only
    cases parse text <;> rfl

/-! ### Assembling -/

/-- **The command that writes an image**, stage by stage. -/
theorem assembly_carryOut (input output : String) :
    (assembly input output).carryOut mw w =
      match w.files.parsed Listing.parse input with
      | .error cause => (.error cause, w)
      | .ok code =>
        match (Image.ofCode code).validate with
        | .error cause => (.error (.machine cause), w)
        | .ok findings =>
          match w.files.write output (Image.ofCode code).encode with
          | .error cause => (.error (.machine (.io output cause)), w)
          | .ok files =>
            (.ok ("wrote " ++ toString code.size ++ " instructions to " ++ output ++
              String.join (findings.map fun finding => "\nwarning: " ++ finding.message)),
              { w with files }) := by
  unfold assembly Listing.load
  rw [carryOut_bind, readParsed_carryOut]
  cases w.files.parsed Listing.parse input with
  | error cause => rfl
  | ok code =>
    simp only [carryOut_bind, carryOut_ofAttempt, Attempt.carryOut_result, Image.store_carryOut]
    cases (Image.ofCode code).validate with
    | error cause => rfl
    | ok findings =>
      have hvalid : (Except.ok findings).mapError CommandFailure.machine = .ok findings := rfl
      simp only [hvalid]
      cases w.files.write output (Image.ofCode code).encode <;> rfl

end Procedure

end StackMachine
