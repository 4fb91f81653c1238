import DocAccessors.CommandLine.Execute

/-!
# The command line

The module around the current directory is read from disk, the arguments are answered, and what has changed is
written back.
-/

namespace DocAccessors.Main

def toBytes (t : Text) : ByteArray := ⟨t.toArray⟩

/-- A text as a string for the operating system. -/
def toPath (t : Text) : String := (String.fromUTF8? (toBytes t)).getD ""

def addFile (d : Disk) (path : String) : IO Disk := do
  try
    let contents ← IO.FS.readBinFile path
    match d.makeDirectories (Path.dir (d.absolute path)) with
    | .ok d => return ((d.write path contents.toList).toOption).getD d
    | .error _ => return d
  catch _ => return d

/-- The disk with the files below a directory; hidden directories are left out. -/
partial def addTree (d : Disk) (dir : String) : IO Disk := do
  let entries ← (← IO.FS.realPath dir).readDir
  entries.foldlM (fun d e => do
    let path := dir ++ "/" ++ e.fileName
    if ← e.path.isDir then
      if e.fileName.startsWith "." then return d else addTree d path
    else addFile d path) d

/-- The directory to read: the nearest one going up that is a module, or else the one given. -/
partial def moduleDirectory (given dir : String) : IO String := do
  let file := (← IO.FS.realPath dir) / toPath ModuleRoot.fileName
  if ← file.pathExists then return dir
  let above := toPath (Path.dir dir)
  if above == dir then return given else moduleDirectory given above

/-- The disk with the directory of a path, if there is one, and with the file at the path. -/
def addNamed (d : Disk) (path : String) : IO Disk := do
  let dir := Path.dir (d.absolute path)
  try
    if ← (← IO.FS.realPath (toPath dir)).isDir then addFile (((d.makeDirectories dir).toOption).getD d) path
    else return d
  catch _ => return d

/-- The disk that arguments are answered on: the module around the current directory, and the files that the
arguments name. -/
def readDisk (args : List String) : IO Disk := do
  let here ← IO.currentDir
  let start : Disk := { current := Disk.steps here.toString }
  let start := ((start.makeDirectories here.toString).toOption).getD start
  args.foldlM addNamed (← addTree start (← moduleDirectory here.toString here.toString))

/-- Writes back what differs between two disks. -/
def writeBack (before after : Disk) : IO Unit := do
  for (path, contents) in after.filesBelow [] do
    if before.read? (text "/" ++ path) != some contents then
      IO.FS.writeBinFile (toPath (text "/" ++ path)) (toBytes contents)
  for (path, _) in before.filesBelow [] do
    if (after.read? (text "/" ++ path)).isNone then IO.FS.removeFile (toPath (text "/" ++ path))

end DocAccessors.Main

open DocAccessors in
/-- Answers the arguments of the program. -/
def main (args : List String) : IO UInt32 := do
  let disk ← Main.readDisk args
  let o := CommandLine.execute { runtime := "lean4" } disk (args.map text)
  (← IO.getStdout).write (Main.toBytes o.out)
  (← IO.getStderr).write (Main.toBytes o.err)
  Main.writeBack disk o.disk
  return UInt32.ofNat o.code
