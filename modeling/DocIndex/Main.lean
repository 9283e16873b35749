import DocIndex.Program

/-!
The command line program.
-/
open DocIndex

def entryAt (path : Text) : IO FileEntry := do
  try
    return .file (← IO.FS.readFile (String.ofList path)).toList
  catch
    | .noFileOrDirectory .. => return .absent
    | _ => return .unreadable

def environmentText (name : String) : IO (Option Text) :=
  return (← IO.getEnv name).map String.toList

def main (args : List String) : IO UInt32 := do
  let args : List Text := args.map String.toList
  let environment ← environmentText "DOCSEARCH_CONFIG"
  let directory := configDirectory? (← environmentText "XDG_CONFIG_HOME")
    (← environmentText "HOME")
  let explicit := (CommandLine.read args).toOption.bind Invocation.config
  let entry ← match (⟨explicit, environment, directory⟩ : SettingsPlaces).path? with
    | some path => entryAt path
    | none => pure .absent
  let outcome := Program.run .offline (fun _ => entry) environment directory args
  IO.print (String.ofList outcome.output)
  return UInt32.ofNat outcome.code
