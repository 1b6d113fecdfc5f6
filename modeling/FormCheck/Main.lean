import FormCheck.CommandLine.Answer
import FormCheck.Host.Plain

/-!
# The command line

Gathers what lies at the paths of a request, answers the request, and prints the answer.
Entries of the journal go to the error stream; so does a failure that is not answered.
-/

namespace FormCheck.CommandLine

/-- The number of the fault of reading a folder as a file. -/
def folderCode : UInt32 := 21

/-- What lies at paths. -/
def gather (paths : List String) : IO Folder := do
  let mut gathered : Folder := .ofFiles []
  for path in paths do
    let short := Path.normalised path
    try
      let content ← IO.FS.readBinFile short
      gathered := { gathered with files := gathered.files.insert short content.toList }
    catch
      | .noFileOrDirectory .. => pure ()
      | .inappropriateType _ code _ =>
          if code = folderCode then
            gathered := { gathered with folders := short :: gathered.folders }
      | .permissionDenied _ _ details =>
          let fault : HostFault := ⟨"PermissionError", details⟩
          gathered := { gathered with locked := gathered.locked.insert short fault }
      | other =>
          let fault : HostFault := ⟨"OSError", toString other⟩
          gathered := { gathered with hidden := gathered.hidden.insert short fault }
  return gathered

/-- Show the entries that are meant for users. -/
def printJournal (entries : List Entry) : IO Unit := do
  for entry in entries do
    if Level.info.rank ≤ entry.level.rank then
      IO.eprintln (entry.level.name ++ " - " ++ entry.message)

open scoped Host in
def answer (arguments : List String) : IO UInt32 := do
  let request := Request.ofArguments arguments
  let traced := Answer.ofRequest (← gather request.paths) request
  printJournal (Event.entries traced.trace)
  match traced.outcome with
  | .ok answer =>
      if let .misuse page := request then
        IO.eprintln page.usage
      IO.print answer.printed
      return answer.code.toUInt32
  | .error failure =>
      IO.eprintln (failure.kindName ++ ": " ++ failure.text)
      return 1

end FormCheck.CommandLine

def main (arguments : List String) : IO UInt32 :=
  FormCheck.CommandLine.answer arguments
