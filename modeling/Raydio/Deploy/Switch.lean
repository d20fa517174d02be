/-
# The deployment script

`raydioctl` keeps the releases of the program in directories of their own and switches
between them with the link `current`; `previous` names the release that a rollback goes
back to. A command holds a lock while it runs, so commands run one after the other, and
any of them may be killed between two operations on files.

A release is known by its revision, which names its directory. Fetching, unpacking and
checking a package leaves the root of the deployment alone, and so does `start`, which is
left out. What the service manager answers is not known.
-/

import Raydio.Foundation.Runs
import Raydio.Foundation.Script

namespace Raydio.Deploy

open Raydio.Foundation

/-- The directory of a release. -/
structure Directory where
  /-- `SHA256SUMS`. -/
  sums : String
  /-- The names in the directory. -/
  names : List String

/-- A package that was fetched, unpacked and checked. -/
structure Package where
  /-- `REVISION`. -/
  revision : String
  sums : String
  names : List String

/-- The root of the deployment. Links are given by the release that they point to. -/
structure Root where
  releases : String → Option Directory
  current : Option String
  previous : Option String
  /-- `current.next`. -/
  next : Option String

/-- A root without any release. -/
def Root.fresh : Root := ⟨fun _ => none, none, none, none⟩

/-- An operation on files. -/
inductive Operation
  /-- `mv "$temp/release" "$next"`. -/
  | place (package : Package)
  /-- `install -m755 "$next/deploy/raydioctl" /usr/local/bin/raydioctl`. -/
  | tool (revision : String)
  /-- `ln -s "$1" "$root/current.next"`. -/
  | link (revision : String)
  /-- `mv -Tf "$root/current.next" "$root/current"`. -/
  | move
  /-- `install -m644 "$1/deploy/raydio.service" /etc/systemd/system/raydio.service`. -/
  | unit (revision : String)
  /-- `ln -sfn "$old" "$root/previous"`. -/
  | keep (revision : String)

/-- What an operation does, if it does not fail. -/
def Operation.effect : Operation → Root → Option Root
  | .place package, root =>
      some { root with
        releases := Function.update root.releases package.revision
          (some ⟨package.sums, package.names⟩) }
  | .tool _, root => some root
  | .link revision, root =>
      match root.next with
      | none => some { root with next := some revision }
      | some other =>
          -- A link to a directory is followed, and the new link is created in there.
          match root.releases other with
          | none => none
          | some directory =>
              if revision ∈ directory.names then none
              else
                some { root with
                  releases := Function.update root.releases other
                    (some { directory with names := directory.names ++ [revision] }) }
  | .move, root =>
      match root.next with
      | none => none
      | some revision => some { root with current := some revision, next := none }
  | .unit _, root => some root
  | .keep revision, root => some { root with previous := some revision }

/-- What a command reports. -/
inductive Report
  /-- `Raydio ready:` with the revision. -/
  | ready (revision : String)
  /-- `New version failed readiness; restoring previous release.` -/
  | restoring
  /-- `Previous release also failed; inspect journalctl -u raydio.` -/
  | previousFailed
  /-- `Installed. Set DISCORD_TOKEN in /etc/raydio/env, then run sudo raydioctl start.` -/
  | installed
  /-- The last words of a command that gives up. -/
  | refused (text : String)
  deriving DecidableEq

/-- A script of the deployment. -/
abbrev Step : Type → Type := Script Root Operation Report

/-- An operation. -/
def operate (operation : Operation) : Step Unit := Script.perform Operation.effect operation

/-- `fail`. -/
def refuse {α : Type} (text : String) : Step α := do
  Script.report (.refused text)
  Script.fail

/-- `link_current`. -/
def linkCurrent (revision : String) : Step Unit := do
  operate (.link revision)
  operate .move

/-- `load_service`: the service manager may refuse the unit. -/
def loadService (revision : String) : Step Unit := do
  operate (.unit revision)
  if ← Script.ask then pure () else Script.fail

/-- Point `previous` to the old release, if there is one and it is another one. -/
def keepPrevious (next : String) : Option String → Step Unit
  | some old => if old = next then pure () else operate (.keep old)
  | none => pure ()

/-- Go back to the old release, if there is one. -/
def restore : Option String → Step Unit
  | some old => do
      Script.report .restoring
      linkCurrent old
      loadService old
      if ← Script.ask then pure () else Script.report .previousFailed
  | none => pure ()

/-- `activate`. -/
def activate (next : String) (old : Option String) : Step Unit := do
  linkCurrent next
  loadService next
  if ← Script.ask then
    keepPrevious next old
    Script.report (.ready next)
  else
    restore old
    refuse "Deployment failed. Environment file was preserved."

/-! ## Commands -/

/-- A revision is forty lower-case hexadecimal digits. -/
def isRevision (text : String) : Bool :=
  text.toList.length = 40 && text.toList.all fun c => c.isDigit || ('a' ≤ c && c ≤ 'f')

/-- Accept a package that was fetched, unpacked and checked, if all this went well. -/
def accept : Option Package → Step Package
  | none => Script.fail
  | some package =>
      if isRevision package.revision then pure package else refuse "Invalid release revision."

/-- Put the release in its directory, unless it is there. -/
def place (package : Package) : Step Unit := do
  let root ← Script.files
  match root.releases package.revision with
  | none => operate (.place package)
  | some directory =>
      if package.sums = directory.sums then pure ()
      else refuse "Same revision has different contents; refusing to overwrite it."

/-- `-e "$root/current"`: the link is there and so is the directory it points to. -/
def Root.installed (root : Root) : Bool :=
  (root.current.bind root.releases).isSome

/-- A command. The package of an install or an update is none if it cannot be fetched or
fails its checks. -/
inductive Command
  | install (package : Option Package)
  | update (package : Option Package)
  | rollback

/-- Accept a package, put its release in its directory and install its script. -/
def provide (fetched : Option Package) : Step String := do
  let package ← accept fetched
  place package
  operate (.tool package.revision)
  pure package.revision

/-- `raydioctl install`, once it is clear that nothing is installed. -/
def install (fetched : Option Package) : Step Unit := do
  let next ← provide fetched
  linkCurrent next
  loadService next
  Script.report .installed

/-- `raydioctl update`, once it is clear that something is installed. -/
def update (fetched : Option Package) : Step Unit := do
  let next ← provide fetched
  let root ← Script.files
  activate next root.current

/-- `raydioctl`. -/
def raydioctl : Command → Step Unit
  | .install fetched => do
      let root ← Script.files
      if root.installed then refuse "Already installed; use update." else install fetched
  | .update fetched => do
      let root ← Script.files
      if root.installed then update fetched else refuse "Install Raydio first."
  | .rollback => do
      let root ← Script.files
      match root.previous, root.current with
      | some previous, some current => activate previous (some current)
      | _, _ => refuse "No previous release available."

/-! ## Runs -/

/-- A command with what it does not control. -/
structure Call where
  command : Command
  setting : Setting Operation

/-- What a command begins with that finds this root. -/
def Root.start (root : Root) : Desk Root Report := ⟨root, 0, 0, []⟩

/-- How a command ends that finds this root. -/
def Call.outcome (call : Call) (root : Root) : Ending Unit × Desk Root Report :=
  raydioctl call.command call.setting root.start

/-- The root after a command. -/
def step (root : Root) (call : Call) : Root := (call.outcome root).2.files

/-- The root after several commands. -/
def run (calls : List Call) : Root := Runs.run step .fresh calls

end Raydio.Deploy
