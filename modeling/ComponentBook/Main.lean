import ComponentBook.CommandLine.Run
import ComponentBook.Disk.Change
import ComponentBook.Json.Writing

/-! # The program

The program works on the files that are named on standard input, one in a line up to an empty line
or the end. They are read at the start, and what a command has changed is written back. Once the
service is started, every further line of standard input is a request, a method, a target and a JSON
body with blanks between them, and every response is a line with its status and its body. -/

namespace ComponentBook.Program

/-- A line of a stream without its end, or nothing at the end of the stream. -/
def readLine? (input : IO.FS.Stream) : IO (Option Text) := do
  let line ← input.getLine
  if line.isEmpty then return none
  return some (Text.dropRightWhile (· = '\n') line.toList)

/-- The lines of a stream up to an empty one. -/
def readNames (input : IO.FS.Stream) : IO (List Text) := do
  let mut names := #[]
  repeat
    match ← readLine? input with
    | some (c :: name) => names := names.push (c :: name)
    | _ => break
  return names.toList

/-- A disk with the named files. -/
def readDisk (names : List Text) : IO Disk := do
  let here := Path.ofText (toString (← IO.currentDir)).toList
  let mut changes := #[Disk.Change.makeDirectory here]
  for name in names do
    let bytes ← IO.FS.readBinFile (String.ofList name)
    changes := changes.push (.write (here.child name) (Content.ofBytes bytes.toList) 0)
  return Disk.changes { workingDirectory := here.names } changes.toList

/-- What one disk holds and another does not, written. -/
def writeChanges (before after : Disk) : IO Unit :=
  for (names, content) in Disk.difference before after [] do
    let path : Path := { slashes := 1, names }
    let name := String.ofList path.text
    match content with
    | some content =>
      IO.FS.createDirAll (String.ofList path.parent.text)
      IO.FS.writeBinFile name (ByteArray.mk content.toBytes.toArray)
    | none => IO.FS.removeFile name

/-- The surroundings of the program. It has no git of its own. -/
def surroundings (disk : Disk) : IO World := do
  let missing := ["diff", "add"].map fun command => (command.toList, Git.Cause.unavailable)
  return { disk, git := { failures := missing }, time := Text.decimal (← IO.monoMsNow) }

/-- The request that a line writes. -/
def requestOf (line : Text) : Service.Request :=
  let (method, rest) := ((Text.cut? [' '] line).getD (line, []))
  let (target, body) := ((Text.cut? [' '] rest).getD (rest, []))
  { method, target, body := body.utf8 }

/-- A value as it is written, if it can be. -/
def written (v : Json.Value) : Text := ((v.render?.bind Json.Codes.text?).getD [])

/-- The line that tells a response, or the failure to give one. -/
def responseLine : Except Failure Service.Response → Text
  | .ok r => Text.decimal r.status ++ ' ' :: written r.body
  | .error f => "500 ".toList ++ written (.text f.message)

/-- Requests answered, up to the end of a stream. -/
def serve (root : Path) (world : World) (input output : IO.FS.Stream) : IO Unit := do
  let mut world := world
  repeat
    match ← readLine? input with
    | none => break
    | some line =>
      let (response, after) := Service.answer world root (requestOf line)
      writeChanges world.disk after.disk
      output.putStrLn (String.ofList (responseLine response))
      output.flush
      world := after

end ComponentBook.Program

open ComponentBook in
/-- What the arguments ask for done. -/
def main (arguments : List String) : IO UInt32 := do
  let input ← IO.getStdin
  let world ← Program.surroundings (← Program.readDisk (← Program.readNames input))
  let arguments := arguments.map String.toList
  let (outcome, after) := CommandLine.run world arguments
  Program.writeChanges world.disk after.disk
  IO.print (String.ofList outcome.output)
  IO.eprint (String.ofList outcome.errors)
  if outcome.service.isSome then
    if let .ok command := CommandLine.Command.read arguments then
      if let .ok root := command.root then Program.serve root after input (← IO.getStdout)
  match outcome.ending with
  | .ok code => return UInt32.ofNat code
  | .error f =>
    IO.eprintln (String.ofList f.message)
    return 1
