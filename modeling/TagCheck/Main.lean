/-
# The program

Gathers what a run may look at, runs, prints, and exits.  Everything in between is
decided by `CommandLine.Run`.
-/

import TagCheck.CommandLine.Run

namespace TagCheck.Main

/-- The names on the way from the root to a place, with the steps back taken. -/
def namesOf (folder : List String) (path : String) : List String :=
  let parts := stringPieces '/' path
  let start := if path.startsWith "/" then [] else folder.reverse
  (parts.foldl
    (fun names part =>
      if part = "" || part = "." then names
      else if part = ".." then names.tail
      else part :: names)
    start).reverse

/-- The absolute path of a place. -/
def absolute (names : List String) : String := "/" ++ "/".intercalate names

/-- The files and the folders at a place and below it.  What lies in folders that are
never searched is left out. -/
partial def gather (names : List String) (isGiven : Bool) :
    IO (List (List String × FileTree)) := do
  let place := (← IO.currentDir) / absolute names
  if ← place.isDir then
    let skipped := !isGiven && (names.getLast?.any skippedFolders.contains)
    let mut found := [(names, FileTree.empty)]
    if !skipped then
      for entry in ← place.readDir do
        found := found ++ (← gather (names ++ [entry.fileName]) false)
    return found
  else if ← place.pathExists then
    try
      return [(names, .file (← IO.FS.readBinFile place).toList)]
    catch problem => return [(names, .barred false (.system (toString problem)))]
  else return []

/-- The disk as far as a call looks at it. -/
def gatherDisk (invocation : CommandLine.Invocation) : IO Disk := do
  let folder := namesOf [] (toString (← IO.currentDir))
  let settings := [invocation.config.getD Config.fileName, IgnoreList.fileName]
  let mut root := FileTree.put FileTree.empty folder FileTree.empty
  for path in settings ++ invocation.paths do
    for (names, node) in ← gather (namesOf folder path) true do
      root := FileTree.put node names root
  return Disk.seenFrom root folder

/-- Print what there is to print. -/
def finish (result : CommandLine.Result) : IO UInt32 := do
  IO.print result.output
  IO.eprint result.errors
  return result.status.toUInt32

end TagCheck.Main

open TagCheck in
/-- Check the files and folders named by the arguments. -/
def main (arguments : List String) : IO UInt32 := do
  match CommandLine.invocationOf arguments with
  | .error result => Main.finish result
  | .ok invocation =>
      let start ← IO.monoMsNow
      let names := [CommandLine.Circumstances.logVariable,
        CommandLine.Circumstances.commonLogVariable,
        CommandLine.Circumstances.logFormatVariable,
        CommandLine.Circumstances.noColorVariable]
      let values ← names.mapM fun name => return (name, ← IO.getEnv name)
      let disk ← Main.gatherDisk invocation
      let run ← IO.lazyPure fun _ => CommandLine.course disk invocation
      let stop ← IO.monoMsNow
      Main.finish <| CommandLine.resultOf
        { environment := fun name => (values.lookup name).join
          onTerminal := ← (← IO.getStdout).isTty
          elapsed := stop - start
          stamp := toString stop ++ "ms" }
        disk.source invocation run
