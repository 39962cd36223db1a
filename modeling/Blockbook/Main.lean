import Blockbook.Command.Run

/-!
# The program

Reads the arguments and files of a call, runs it and prints what it leaves.
-/

namespace Blockbook

/-- A failure of the system in the library's terms. -/
def ReadError.ofSystem : IO.Error → ReadError
  | .noFileOrDirectory .. => .notFound
  | .inappropriateType .. => .notDirectory
  | .illegalOperation .. => .isDirectory
  | e => .other (toString e).toList

/-- Reads a file as text. -/
def readText (path : Text) : IO (Except ReadError Text) := do
  try
    let content ← IO.FS.readBinFile (String.ofList path)
    match String.fromUTF8? content with
    | some s => return .ok s.toList
    | none => return .error .invalidUtf8
  catch e => return .error (.ofSystem e)

/-- A number as thirty-two hexadecimal digits. -/
def hexKey (n : Nat) : Text :=
  let digits := Text.hex (n % Nat.pow 2 128)
  List.replicate (32 - digits.length) '0' ++ digits

/-- A random number below `2 ^ 128`. -/
def randomNumber : IO Nat := do
  let bytes ← IO.getRandomBytes 16
  return bytes.foldl (fun n b => 256 * n + b.toNat) 0

end Blockbook

open Blockbook in
def main (args : List String) : IO UInt32 := do
  let seed ← randomNumber
  let limit ← IO.getEnv "BLOCKBOOK_LOG"
  let env : Command.Environment IO :=
    { read := readText
      rowKey := fun i => hexKey (seed + i + 1)
      templateId := hexKey seed
      logLimit := limit.map String.toList }
  let output ← Command.run env (args.map String.toList)
  IO.print (String.ofList output.stdout)
  for line in output.stderr do
    IO.eprintln (String.ofList line)
  return output.exit.toUInt32
