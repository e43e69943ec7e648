import PapyrusWriter.Host.Shell.Process
/-!
# Redirections

A redirection lets a channel lead to a file, to another channel, or nowhere.
-/

namespace PapyrusWriter.Shell

set_option autoImplicit false

/-- Lets a channel lead elsewhere; tells whether that is possible. -/
def redirect (channel : Nat) (kind : RedirectKind) (target : String) : Run Bool := do
  let p ← get
  match kind with
  | .copy =>
      if target = "-" then
        set { p with sinks := p.sinks.filter (·.1 ≠ channel) }
        return true
      match target.toNat? with
      | none => Run.abort "Syntax error: Bad fd number"
      | some other =>
          match p.sinks.lookup other with
          | some sink =>
              set { p with sinks := (channel, sink) :: p.sinks }
              return true
          | none =>
              if other = 0 then return true
              Run.complainHere (target ++ ": Bad file descriptor")
              return false
  | .here =>
      Run.openInput (Text.toBytes target)
      return true
  | .read =>
      match p.files.readContent target with
      | .ok content =>
          Run.openInput content.bytes
          return true
      | .error .isDirectory =>
          Run.openInput []
          return true
      | .error cause =>
          let reason := if cause = .notFound then "No such file" else cause.text
          Run.complainHere ("cannot open " ++ target ++ ": " ++ reason)
          return false
  | .write | .append | .readWrite =>
      let kept :=
        if kind = .write then .text "" else ((p.files.readContent target).toOption).getD (.text "")
      match p.files.write target kept with
      | .ok files =>
          set { p with files, sinks := (channel, .file target) :: p.sinks }
          return true
      | .error cause =>
          let reason := if cause = .notFound then "Directory nonexistent" else cause.text
          Run.complainHere ("cannot create " ++ target ++ ": " ++ reason)
          return false

end PapyrusWriter.Shell
