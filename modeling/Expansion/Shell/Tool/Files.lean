import Expansion.Shell.Tool.Names

/-!
# Tools for files

Tools that look at the disk and change it. Each works through its operands one after the other; what
cannot be done is complained about, and the rest is done all the same.
-/

namespace Expansion.Shell.Tool

open Expansion.Shell

/-- Work on the disk, one file after the other. -/
structure DiskWork where
  disk : Disk
  progress : Progress

namespace DiskWork

/-- Prints a text. -/
def print (text : Octets) (w : DiskWork) : DiskWork := { w with progress := w.progress.print text }

/-- Complains. -/
def complain (c : Call) (message : Octets) (w : DiskWork) : DiskWork :=
  { w with progress := w.progress.complain c message }

/-- The output of the work. -/
def finish (w : DiskWork) (status : Nat) : ToolOutput :=
  ⟨if w.progress.failed then status else 0, w.progress.out, w.progress.err, w.disk, 0⟩

end DiskWork

/-- Works through operands. -/
def workThrough (c : Call) (operands : List Octets) (status : Nat)
    (step : DiskWork → Octets → DiskWork) : ToolOutput :=
  (operands.foldl step ⟨c.disk, .start⟩).finish status

/-- What a path leads to, without following a link at its end. -/
def entryAt? (d : Disk) (file : Octets) : Except Disk.Error (Location × Disk.Entry) :=
  match d.find (pathOf file) false with
  | .error e => .error e
  | .ok (.present place entry) => .ok (place, entry)
  | .ok (.absent _ _ _) => .error .notFound

/-! ## Making and removing -/

/-- Makes directories. -/
def mkdir : Tool :=
  OptionTable.run ⟨['p', 'v'], ['m'], [("parents", 'p'), ("verbose", 'v'), ("mode", 'm')], 1⟩ false
    fun c a =>
    if a.operands.isEmpty then c.missingOperand 1
    else workThrough c a.operands 1 fun w file =>
      let p := pathOf file
      let (result, disk) : Disk.Attempt :=
        if a.has 'p' then w.disk.attemptDirectories p
        else
          match w.disk.makeDirectory p with
          | .ok made => (.ok (), made)
          | .error e => (.error e, w.disk)
      let isNew := !w.disk.isDirectory p
      let w := { w with disk }
      match result with
      | .ok () =>
        let text := Octets.ofString "mkdir: created directory " ++ quoteName file ++ ['\n']
        if a.has 'v' && isNew then w.print text else w
      | .error e => w.complain c (cannot "cannot create directory" file e)

/-- Removes directories that are empty. -/
def rmdir : Tool :=
  OptionTable.run ⟨['p', 'v'], [], [("parents", 'p'), ("verbose", 'v')], 1⟩ false fun c a =>
    if a.operands.isEmpty then c.missingOperand 1
    else workThrough c a.operands 1 fun w file =>
      let remove (w : DiskWork) (file : Octets) : DiskWork :=
        if w.progress.failed then w
        else
          match entryAt? w.disk file with
          | .error e => w.complain c (cannot "failed to remove" file e)
          | .ok (place, .directory) =>
            if (w.disk.namesIn place).isEmpty then { w with disk := w.disk.eraseTree place }
            else
              w.complain c (Octets.ofString "failed to remove " ++ quoteName file
                ++ Octets.ofString ": Directory not empty")
          | .ok _ => w.complain c (cannot "failed to remove" file .notDirectory)
      if a.has 'p' then
        let names := Text.splitChars '/' (withoutLastSlashes file)
        (List.range names.length).foldl (fun w i =>
          remove w (Octets.join ['/'] (names.take (names.length - i)))) w
      else remove w file

/-- Removes files and, if that is asked for, directories. -/
def rm : Tool :=
  OptionTable.run
    ⟨['r', 'R', 'f', 'v', 'i', 'I', 'd'], [],
      [("recursive", 'r'), ("force", 'f'), ("verbose", 'v'), ("dir", 'd')], 1⟩ false fun c a =>
    let deep := a.has 'r' || a.has 'R'
    let forced := a.has 'f'
    if a.operands.isEmpty then if forced then c.done 0 else c.missingOperand 1
    else workThrough c a.operands 1 fun w file =>
      if [['.'], ['.', '.']].contains (lastName file) then
        w.complain c (Octets.ofString "refusing to remove '.' or '..' directory: skipping "
          ++ quoteName file)
      else
        match entryAt? w.disk file with
        | .error .notFound =>
          if forced then w else w.complain c (cannot "cannot remove" file .notFound)
        | .error .notDirectory =>
          if forced then w else w.complain c (cannot "cannot remove" file .notDirectory)
        | .error e => w.complain c (cannot "cannot remove" file e)
        | .ok (place, entry) =>
          let isEmpty := (w.disk.namesIn place).isEmpty
          if entry.isDirectory && !deep && !(a.has 'd' && isEmpty) then
            w.complain c (cannot "cannot remove" file .isDirectory)
          else
            let w := { w with disk := w.disk.eraseTree place }
            if a.has 'v' then
              w.print (Octets.ofString "removed " ++ quoteName file ++ ['\n'])
            else w

/-- Makes files that are not there. -/
def touch : Tool :=
  OptionTable.run ⟨['c', 'a', 'm', 'f', 'h'], ['d', 'r', 't'], [("no-create", 'c')], 1⟩ false
    fun c a =>
    if a.operands.isEmpty then c.misuse 1 (Octets.ofString "missing file operand")
    else workThrough c a.operands 1 fun w file =>
      let p := pathOf file
      if w.disk.leadsSomewhere p || a.has 'c' then w
      else
        match w.disk.writeFile p ByteArray.empty with
        | .ok disk => { w with disk }
        | .error .isDirectory =>
          w.complain c (Octets.ofString "setting times of " ++ quoteName file
            ++ Octets.ofString ": No such file or directory")
        | .error e => w.complain c (cannot "cannot touch" file e)

/-! ## Copying and moving -/

/-- The disk with a tree copied from one place to another. -/
def copyTree (d : Disk) (source target : Location) : Disk :=
  let copies := d.entries.filterMap fun (place, entry) =>
    if source.isPrefixOf place then some (target ++ place.drop source.length, entry) else none
  copies.foldl (fun d (place, entry) => d.set place entry) d

/-- The path of a file that goes to a directory or to a name. -/
def targetIn (d : Disk) (target source : Octets) : Octets :=
  if d.isDirectory (pathOf target) then
    (if target.getLast? = some '/' then target else target ++ ['/']) ++ lastName source
  else target

/-- Checks what operands a tool has that takes sources and a target, and goes through them. -/
def toTarget (c : Call) (a : Arguments) (step : DiskWork → Octets → Octets → DiskWork) :
    ToolOutput :=
  let direct := a.has 'T'
  let (sources, target?) := match a.value? 't' with
    | some target => (a.operands, some target)
    | none => (a.operands.dropLast, a.operands.getLast?)
  match sources, target? with
  | [], none => c.misuse 1 (Octets.ofString "missing file operand")
  | [], some only =>
    c.misuse 1 (Octets.ofString "missing destination file operand after " ++ quoteName only)
  | _ :: _, none => c.misuse 1 (Octets.ofString "missing file operand")
  | sources, some target =>
    let isDirectory := c.disk.isDirectory (pathOf target)
    if 1 < sources.length && !isDirectory then
      let e : Disk.Error :=
        if c.disk.leadsSomewhere (pathOf target) then .notDirectory else .notFound
      c.fail 1 (Octets.ofString "target " ++ aboutFile (quoteName target) e)
    else workThrough c sources 1 fun w source =>
      step w source (if direct then target else targetIn w.disk target source)

/-- The place of a path whose last name need not be there. -/
def placeFor (d : Disk) (file : Octets) (follow : Bool) :
    Except Disk.Error (Location × Option Disk.Entry) :=
  match d.find (pathOf file) follow with
  | .error e => .error e
  | .ok (.present place entry) => .ok (place, some entry)
  | .ok (.absent parent name _) => .ok (parent ++ [name], none)

/-- Copies files. -/
def cp : Tool :=
  OptionTable.run
    ⟨['r', 'R', 'a', 'f', 'p', 'v', 'n', 'T', 'd', 'L', 'P', 'u', 'i'], ['t'],
      [("recursive", 'r'), ("archive", 'a'), ("force", 'f'), ("verbose", 'v'),
        ("no-clobber", 'n'), ("no-target-directory", 'T'), ("target-directory", 't')], 1⟩ false
    fun c a =>
    let deep := a.has 'r' || a.has 'R' || a.has 'a'
    toTarget c a fun w source target =>
      let note (w : DiskWork) : DiskWork :=
        if a.has 'v' then
          w.print (quoteName source ++ Octets.ofString " -> " ++ quoteName target ++ ['\n'])
        else w
      match w.disk.find (pathOf source) true with
      | .error e => w.complain c (cannot "cannot stat" source e)
      | .ok (.absent _ _ _) => w.complain c (cannot "cannot stat" source .notFound)
      | .ok (.present place (.file content runnable)) =>
        match placeFor w.disk target true with
        | .error e => w.complain c (cannot "cannot create regular file" target e)
        | .ok (other, some (.file _ isRunnable)) =>
          if other = place then
            w.complain c (quoteName source ++ Octets.ofString " and " ++ quoteName target
              ++ Octets.ofString " are the same file")
          else if a.has 'n' then w
          else note { w with disk := w.disk.set other (.file content isRunnable) }
        | .ok (_, some _) =>
          w.complain c (Octets.ofString "cannot overwrite directory " ++ quoteName target
            ++ Octets.ofString " with non-directory")
        | .ok (other, none) =>
          if target.getLast? = some '/' then
            w.complain c (cannot "cannot create regular file" target .notDirectory)
          else note { w with disk := w.disk.set other (.file content runnable) }
      | .ok (.present place _) =>
        if !deep then
          w.complain c (Octets.ofString "-r not specified; omitting directory "
            ++ quoteName source)
        else
          match placeFor w.disk target true with
          | .error e => w.complain c (cannot "cannot create directory" target e)
          | .ok (_, some (.file _ _)) =>
            w.complain c (Octets.ofString "cannot overwrite non-directory " ++ quoteName target
              ++ Octets.ofString " with directory " ++ quoteName source)
          | .ok (other, _) =>
            if place.isPrefixOf other then
              w.complain c (Octets.ofString "cannot copy a directory, " ++ quoteName source
                ++ Octets.ofString ", into itself, " ++ quoteName target)
            else note { w with disk := copyTree w.disk place other }

/-- Moves files. -/
def mv : Tool :=
  OptionTable.run
    ⟨['f', 'v', 'n', 'T', 'u', 'i'], ['t'],
      [("force", 'f'), ("verbose", 'v'), ("no-clobber", 'n'), ("no-target-directory", 'T'),
        ("target-directory", 't')], 1⟩ false fun c a =>
    toTarget c a fun w source target =>
      match entryAt? w.disk source with
      | .error e => w.complain c (cannot "cannot stat" source e)
      | .ok (place, entry) =>
        let moveTo (other : Location) : DiskWork :=
          let disk := copyTree (w.disk.eraseTree other) place other
          let w := { w with disk := disk.eraseTree place }
          if a.has 'v' then
            w.print (Octets.ofString "renamed " ++ quoteName source ++ Octets.ofString " -> "
              ++ quoteName target ++ ['\n'])
          else w
        match placeFor w.disk target false with
        | .error e =>
          w.complain c (Octets.ofString "cannot move " ++ quoteName source
            ++ Octets.ofString " to " ++ aboutFile (quoteName target) e)
        | .ok (other, old?) =>
          let oldIsDirectory := old?.any Disk.Entry.isDirectory
          if other = place then
            w.complain c (quoteName source ++ Octets.ofString " and " ++ quoteName target
              ++ Octets.ofString " are the same file")
          else if entry.isDirectory && place.isPrefixOf other then
            w.complain c (Octets.ofString "cannot move " ++ quoteName source
              ++ Octets.ofString " to a subdirectory of itself, " ++ quoteName target)
          else if entry.isDirectory && old?.isSome && !oldIsDirectory then
            w.complain c (Octets.ofString "cannot overwrite non-directory " ++ quoteName target
              ++ Octets.ofString " with directory " ++ quoteName source)
          else if !entry.isDirectory && oldIsDirectory then
            w.complain c (Octets.ofString "cannot overwrite directory " ++ quoteName target
              ++ Octets.ofString " with non-directory")
          else if oldIsDirectory && !(w.disk.namesIn other).isEmpty then
            w.complain c (Octets.ofString "cannot move " ++ quoteName source
              ++ Octets.ofString " to " ++ quoteName target
              ++ Octets.ofString ": Directory not empty")
          else if !entry.isDirectory && old?.isNone && target.getLast? = some '/' then
            w.complain c (Octets.ofString "cannot move " ++ quoteName source
              ++ Octets.ofString " to " ++ aboutFile (quoteName target) .notDirectory)
          else if a.has 'n' && old?.isSome then w
          else moveTo other

/-- Makes links. -/
def ln : Tool :=
  OptionTable.run
    ⟨['s', 'f', 'n', 'v', 'T', 'r'], ['t'],
      [("symbolic", 's'), ("force", 'f'), ("no-dereference", 'n'), ("verbose", 'v')], 1⟩ false
    fun c a =>
    let a := match a.operands with
      | [only] => { a with operands := [only, ['.']] }
      | _ => a
    toTarget c a fun w source target =>
      let kind := if a.has 's' then "symbolic link" else "hard link"
      let entry? : Except Disk.Error Disk.Entry :=
        if a.has 's' then .ok (.link (Octets.toString source))
        else (entryAt? w.disk source).map Prod.snd
      match entry? with
      | .error e => w.complain c (cannot "failed to access" source e)
      | .ok entry =>
        if !a.has 's' && entry.isDirectory then
          w.complain c (source ++ Octets.ofString ": hard link not allowed for directory")
        else
          let refuse (e : Disk.Error) : DiskWork :=
            let arrow : Octets := if a.has 's' || e = .alreadyThere then []
              else Octets.ofString " => " ++ quoteName source
            w.complain c (Octets.ofString ("failed to create " ++ kind ++ " ")
              ++ aboutFile (quoteName target ++ arrow) e)
          match placeFor w.disk target false with
          | .error e => refuse e
          | .ok (_, some old) =>
            if !a.has 'f' || old.isDirectory then refuse .alreadyThere
            else
              match placeFor w.disk target false with
              | .ok (place, _) => { w with disk := w.disk.set place entry }
              | .error e => refuse e
          | .ok (place, none) => { w with disk := w.disk.set place entry }

/-! ## Modes -/

/-- Whether a file that could or could not be run can be run after a change of its mode. -/
def changeMode? (mode : Octets) (before : Bool) : Option Bool :=
  if !mode.isEmpty && mode.all (fun d => '0' ≤ d && d ≤ '7') then
    some ((valueIn 8 mode) &&& 0o111 != 0)
  else
    (Text.splitChars ',' mode).foldl (fun state? clause =>
      state?.bind fun state =>
        let rest := clause.dropWhile (['u', 'g', 'o', 'a'].contains ·)
        match rest with
        | sign :: letters =>
          let known := letters.all (['r', 'w', 'x', 'X', 's', 't', 'u', 'g', 'o'].contains ·)
          let runs := letters.contains 'x'
          if !known then none
          else if sign = '+' then some (state || runs)
          else if sign = '-' then some (state && !runs)
          else if sign = '=' then some runs
          else none
        | [] => none) (some before)

/-- Changes the modes of files. -/
def chmod : Tool := fun c =>
  -- A mode may begin with a dash without being an option.
  let isMode (argument : Octets) : Bool := match argument with
    | '-' :: d :: _ => ['x', 'r', 'w', 'X'].contains d
    | _ => false
  let options := c.arguments.takeWhile fun argument =>
    argument.head? = some '-' && !isMode argument
  match c.arguments.drop options.length with
  | [] => c.missingOperand 1
  | [mode] => c.misuse 1 (Octets.ofString "missing operand after " ++ quoteName mode)
  | mode :: files =>
    if (changeMode? mode false).isNone then
      c.misuse 1 (Octets.ofString "invalid mode: " ++ quoteName mode)
    else workThrough c files 1 fun w file =>
      match w.disk.find (pathOf file) true with
      | .error e => w.complain c (cannot "cannot access" file e)
      | .ok (.absent _ _ _) => w.complain c (cannot "cannot access" file .notFound)
      | .ok (.present place (.file content runnable)) =>
        let runnable := (changeMode? mode runnable).getD runnable
        { w with disk := w.disk.set place (.file content runnable) }
      | .ok _ => w

/-! ## Looking -/

/-- The names of a listing, as the options want them. -/
def listedNames (a : Arguments) (d : Disk) (place : Location) : List Octets :=
  let names := (d.namesIn place).map Octets.ofString
  let names := if a.has 'a' then ['.'] :: ['.', '.'] :: names
    else if a.has 'A' then names
    else names.filter fun name => name.head? ≠ some '.'
  let ordered := names.mergeSort textLe
  if a.has 'r' then ordered.reverse else ordered

/-- The sign behind a name that tells what it names. -/
def nameSign (a : Arguments) (d : Disk) (place : Location) : Octets :=
  match d.get? place with
  | some .directory => if a.has 'F' || a.has 'p' then ['/'] else []
  | some (.file _ true) => if a.has 'F' then ['*'] else []
  | some (.link _) => if a.has 'F' then ['@'] else []
  | _ => []

/-- The lines of the listing of a directory. -/
def listDirectory (a : Arguments) (d : Disk) (place : Location) : Octets :=
  Octets.unlines ((listedNames a d place).map fun name =>
    name ++ nameSign a d (place ++ [Octets.toString name]))

/-- The directories below a directory, each with its path, on a budget of depth. -/
def directoriesBelow (a : Arguments) (d : Disk) :
    Nat → Octets → Location → List (Octets × Location)
  | 0, file, place => [(file, place)]
  | budget + 1, file, place =>
    let inner := (listedNames a d place).flatMap fun name =>
      let below := place ++ [Octets.toString name]
      let path := (if file.getLast? = some '/' then file else file ++ ['/']) ++ name
      if (d.get? below).any Disk.Entry.isDirectory && name ≠ ['.'] && name ≠ ['.', '.'] then
        directoriesBelow a d budget path below
      else []
    (file, place) :: inner

/-- Lists files and directories, one name on a line. -/
def ls : Tool :=
  OptionTable.run
    ⟨['1', 'a', 'A', 'd', 'r', 'F', 'p', 'C', 'x', 'U', 't', 'S', 'q', 'b', 'N', 'H', 'L', 'R'], [],
      [("all", 'a'), ("recursive", 'R'), ("almost-all", 'A'), ("directory", 'd'), ("reverse", 'r'),
        ("classify", 'F')], 2⟩ false fun c a =>
    let operands := if a.operands.isEmpty then [['.']] else a.operands
    let ordered := operands.mergeSort textLe
    let ordered := if a.has 'r' then ordered.reverse else ordered
    let found := ordered.map fun file => (file, c.disk.find (pathOf file) (!a.has 'd'))
    let start := found.foldl (fun p (file, found) =>
      match found with
      | .error e => p.complain c (cannot "cannot access" file e)
      | .ok (.absent _ _ _) =>
        -- A link that leads nowhere is listed by its own name.
        if c.disk.isTaken (pathOf file) then p.print (file ++ ['\n'])
        else p.complain c (cannot "cannot access" file .notFound)
      | .ok (.present place entry) =>
        if entry.isDirectory && !a.has 'd' then p
        else p.print (file ++ nameSign a c.disk place ++ ['\n'])) Progress.start
    let directories := found.filterMap fun (file, found) =>
      match found with
      | .ok (.present place .directory) => if a.has 'd' then none else some (file, place)
      | _ => none
    let titled := 1 < operands.length || a.has 'R'
    let directories := if a.has 'R' then
        directories.flatMap fun (file, place) =>
          directoriesBelow a c.disk c.disk.entries.length file place
      else directories
    let p := directories.foldl (fun p (file, place) =>
      let title : Octets := if titled then file ++ [':', '\n'] else []
      let gap : Octets := if titled && !p.out.isEmpty then ['\n'] else []
      p.print (gap ++ title ++ listDirectory a c.disk place)) start
    { p.finish c [['.']] 2 with used := 0 }

/-- Prints where links lead. -/
def readlink : Tool :=
  OptionTable.run ⟨['f', 'e', 'm', 'n', 'q', 's', 'v'], [], [("canonicalize", 'f')], 1⟩ false
    fun c a =>
    if a.operands.isEmpty then c.missingOperand 1
    else workThrough c a.operands 1 fun w file =>
      let ending : Octets := if a.has 'n' then [] else ['\n']
      let shown (place : Location) : Octets :=
        let path := place.flatMap fun name => '/' :: Octets.ofString name
        if path.isEmpty then ['/'] else path
      let failed : DiskWork := { w with progress := { w.progress with failed := true } }
      if a.has 'f' || a.has 'e' || a.has 'm' then
        match placeFor w.disk file true with
        | .ok (place, _) => w.print (shown place ++ ending)
        | .error _ => failed
      else
        match entryAt? w.disk file with
        | .ok (_, .link target) => w.print (Octets.ofString target ++ ending)
        | _ => failed

/-- Prints the places that paths lead to. -/
def realpath : Tool :=
  OptionTable.run ⟨['e', 'm', 's', 'q', 'z'], [], [], 1⟩ false fun c a =>
    if a.operands.isEmpty then c.missingOperand 1
    else workThrough c a.operands 1 fun w file =>
      let shown (place : Location) : Octets :=
        let path : Octets := place.flatMap fun name => '/' :: Octets.ofString name
        (if path.isEmpty then ['/'] else path) ++ ['\n']
      match placeFor w.disk file true with
      | .ok (place, none) =>
        if a.has 'e' then w.complain c (aboutFile file .notFound) else w.print (shown place)
      | .ok (place, some _) => w.print (shown place)
      | .error e =>
        if a.has 'm' then
          let start := if file.head? = some '/' then [] else w.disk.home
          let names := (Text.splitChars '/' file).filter fun name => name ≠ [] && name ≠ ['.']
          let place := names.foldl (fun place name =>
            if name = ['.', '.'] then place.dropLast else place ++ [Octets.toString name]) start
          w.print (shown place)
        else w.complain c (aboutFile file e)

/-- A path in which the marks for a fresh name are replaced by a number. -/
def fillTemplate (path : Octets) (n : Nat) : Octets :=
  let marks := (path.reverse.takeWhile (· == 'X')).length
  let digits := Octets.ofNat n
  path.take (path.length - marks) ++ List.replicate (marks - digits.length) '0' ++ digits

/-- Makes a file or directory with a fresh name. -/
def mktemp : Tool :=
  OptionTable.run ⟨['d', 'u', 'q', 't'], ['p'], [("directory", 'd'), ("tmpdir", 'p')], 1⟩ false
    fun c a =>
    let scratch := (c.environment.lookup "TMPDIR".toList).getD "/tmp".toList
    let template := match a.operands with
      | template :: _ => if a.has 't' then scratch ++ '/' :: template else template
      | [] => ((a.value? 'p').getD scratch) ++ "/tmp.XXXXXXXXXX".toList
    let names := (List.range (c.disk.entries.length + 1)).map (fillTemplate template)
    match names.find? fun name => !c.disk.isTaken (pathOf name) with
    | none => c.done 1
    | some name =>
      let made := if a.has 'd' then c.disk.makeDirectory (pathOf name)
        else Disk.writeFile c.disk (pathOf name) ByteArray.empty
      match made with
      | .ok disk => { c.print (name ++ ['\n']) with disk }
      | .error e =>
        let kind := if a.has 'd' then "directory" else "file"
        c.fail 1 (Octets.ofString ("failed to create " ++ kind ++ " via template ")
          ++ aboutFile (quoteName template) e)

/-- Compares two files byte by byte. -/
def cmp : Tool :=
  OptionTable.run ⟨['s', 'l', 'b'], ['n'], [("silent", 's'), ("quiet", 's')], 2⟩ false fun c a =>
    match a.operands with
    | [] => c.misuse 2 (Octets.ofString "missing operand after 'cmp'")
    | left :: rest =>
      let right := rest.headD ['-']
      match c.textOf left, c.textOf right with
      | .error e, _ => c.fail 2 (aboutFile left e)
      | _, .error e => c.fail 2 (aboutFile right e)
      | .ok x, .ok y =>
        let same := ((x.zip y).takeWhile fun (p, q) => p == q).length
        let used := if readsInput [left, right] then c.input.size else 0
        let line := (x.take same).count '\n' + 1
        let quiet := a.has 's'
        if x = y then { c.done 0 with used }
        else if same = x.length || same = y.length then
          let short := if x.length < y.length then left else right
          let tail := if same = 0 then Octets.ofString " which is empty"
            else Octets.ofString " after byte " ++ Octets.ofNat same ++
              Octets.ofString (if (x.take same).getLast? = some '\n' then ", line "
                else ", in line ") ++ Octets.ofNat
                  (if (x.take same).getLast? = some '\n' then line - 1 else line)
          if quiet then { c.done 1 with used }
          else { c.fail 1 (Octets.ofString "EOF on " ++ short ++ tail) with used }
        else if quiet then { c.done 1 with used }
        else
          let out := left ++ ' ' :: right ++ Octets.ofString " differ: char "
            ++ Octets.ofNat (same + 1) ++ Octets.ofString ", line " ++ Octets.ofNat line ++ ['\n']
          ⟨1, out, [], c.disk, used⟩

end Expansion.Shell.Tool
