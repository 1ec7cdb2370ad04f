import Expansion.Shell.Substitution
import Expansion.Shell.Tool.Basic

/-!
# Leading streams elsewhere

What redirections do: each opens a file, a here-document or a stream that is open already, and leads
a stream there.

* **All targets are known before the first one is opened.** The text of a here-document is made when
  its turn comes, so a fault in it is a fault of the redirection.
* If one of them is impossible, none of the streams is led elsewhere (`followRequests`).
-/

namespace Expansion.Shell

/-- A redirection whose target is known; the text of a here-document is not. -/
inductive StreamRequest where
  | file (stream : Nat) (how : Opening) (target : Octets)
  | stream (stream : Nat) (target : Octets)
  | document (stream : Nat) (document : Nat)

namespace StreamRequest

/-- The stream that is led elsewhere. -/
def number : StreamRequest → Nat
  | .file n _ _ | .stream n _ | .document n _ => n

/-- Finds out where a redirection leads. -/
def ofRedirection (capture : Capture) : Redirection → Act StreamRequest
  | .file n how target => return .file n how (← textOf capture .single target)
  | .stream n target => do
    let text ← textOf capture .single target
    let isStream := match text with
      | ['-'] => true
      | [d] => d.isDigit
      | _ => false
    if isStream then return .stream n text else Act.failWith "Syntax error: Bad fd number"
  | .document n number => return .document n number

end StreamRequest

/-- Finds out where redirections lead. -/
def requestsOf (capture : Capture) : List Redirection → Act (List StreamRequest)
  | [] => return []
  | r :: rest => do
    let request ← StreamRequest.ofRedirection capture r
    return request :: (← requestsOf capture rest)

/-- Why a file cannot be opened, in words. -/
def openingFault (isNew : Bool) (e : Disk.Error) : String :=
  match e with
  | .notFound | .notDirectory => if isNew then "Directory nonexistent" else "No such file"
  | e => errorText e

/-- The stream that a path of a device stands for. -/
def deviceStream? (target : Octets) : Option Nat :=
  match String.ofList target with
  | "/dev/stdin" => some 0
  | "/dev/stdout" => some 1
  | "/dev/stderr" => some 2
  | _ =>
    match Text.afterPrefix? "/dev/fd/".toList target with
    | some [d] => if d.isDigit then some (digitsValue [d]) else none
    | _ => none

/-- Adds a channel. -/
def addChannel (channel : Channel) : Act Nat := fun s =>
  let (n, s) := s.addChannel channel
  (.ok n, s)

/-- Leads a stream to where another one leads. -/
def duplicate (stream source : Nat) : Act Unit := do
  match (← get).streams.lookup source with
  | some channel => modify (State.leadTo stream (some channel))
  | none => Act.fail (Octets.ofNat source ++ Octets.ofString ": Bad file descriptor")

/-- Opens a file and leads a stream to it. -/
def openFile (stream : Nat) (how : Opening) (target : Octets) : Act Unit := do
  let s ← get
  let reading := how = .read
  let refuse (e : Disk.Error) : Act Unit :=
    let verb := if reading then "cannot open " else "cannot create "
    Act.fail (Octets.ofString verb ++ target
      ++ Octets.ofString (": " ++ openingFault (!reading) e))
  let lead (channel : Channel) : Act Unit := do
    let n ← addChannel channel
    modify (State.leadTo stream (some n))
  let append := how = .append
  match deviceStream? target with
  | some source => duplicate stream source
  | none =>
    if target = "/dev/null".toList then lead .nothing
    else
      match s.disk.find (pathOf target) true with
      | .error e => refuse e
      | .ok (.present _ .directory) => if reading then lead .nothing else refuse .isDirectory
      | .ok (.present place (.file content runnable)) =>
        if how = .replace && s.has 'C' then refuse .alreadyThere
        else
          let content := match how with
            | .replace | .overwrite => ByteArray.empty
            | _ => content
          set { s with disk := s.disk.set place (.file content runnable) }
          lead (.file place 0 append)
      | .ok (.present _ _) => refuse .notFound
      | .ok (.absent parent name asDirectory) =>
        if reading then refuse .notFound
        else if asDirectory then refuse .isDirectory
        else
          let place := parent ++ [name]
          set { s with disk := s.disk.set place (.file ByteArray.empty false) }
          lead (.file place 0 append)

/-- Leads a stream where a request says. -/
def followRequest (capture : Capture) : StreamRequest → Act Unit
  | .file n how target => openFile n how target
  | .document n number => do
    let word := ((← get).documents.lookup number).getD []
    let text ← textOf capture .document word
    let channel ← addChannel (.bytes (Octets.toBytes text) 0)
    modify (State.leadTo n (some channel))
  | .stream n target =>
    if target = ['-'] then modify (State.leadTo n none) else duplicate n (digitsValue target)

/-- The state with some streams led to where they led in another state. -/
def restoreStreams (numbers : List Nat) (before after : State) : State :=
  numbers.foldl (fun s n => s.leadTo n (before.streams.lookup n)) after

/-- Leads streams where requests say; if one of them is impossible, all is as it was. -/
def followRequests (capture : Capture) (requests : List StreamRequest) : Act Unit := fun s =>
  match requests.forM (followRequest capture) s with
  | (.ok (), after) => (.ok (), after)
  | (.error i, after) =>
    (.error i, restoreStreams (requests.map StreamRequest.number) s after)

end Expansion.Shell
