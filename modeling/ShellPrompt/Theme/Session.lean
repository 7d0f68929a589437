import ShellPrompt.Theme.Catalog

/-!
Sessions with a catalog of themes: calls one after the other, each with an answer. A call that fails
leaves the catalog as it was, and the session goes on with the next one. The machine may change
between calls, so every call that reads a file comes with the machine that it finds.
-/

namespace ShellPrompt.Theme.Catalog

inductive Call where
  | find (name : Value)
  | names
  | adopt (text : String)
  | adoptFile (host : Host) (path : Path)

inductive CallFault where
  | name (fault : UnusableName)
  | adopt (fault : AdoptFault)

inductive Answer where
  | found (theme : Option Theme)
  | names (names : List String)
  | adopted (theme : Option Theme)

/-- The catalog after an import, and the answer to it. -/
def settle (catalog : Catalog) (report : Report AdoptFault (Catalog × Option Theme)) :
    Catalog × Report CallFault Answer :=
  match report.outcome with
  | .ok (grown, theme) => (grown, Report.noted report.warnings (.adopted theme))
  | .error fault => (catalog, { warnings := report.warnings, outcome := .error (.adopt fault) })

def perform (catalog : Catalog) : Call → Catalog × Report CallFault Answer
  | .find name =>
      (catalog, Report.ofExcept (((catalog.find name).map Answer.found).mapError CallFault.name))
  | .names => (catalog, pure (.names catalog.names))
  | .adopt text => catalog.settle (catalog.adopt text)
  | .adoptFile host path => catalog.settle (catalog.adoptFile host path)

/-- The catalog after some calls, and the answers to them. -/
def session (catalog : Catalog) : List Call → Catalog × List (Report CallFault Answer)
  | [] => (catalog, [])
  | call :: rest =>
      let (next, answer) := catalog.perform call
      let (last, answers) := next.session rest
      (last, answer :: answers)

end ShellPrompt.Theme.Catalog
