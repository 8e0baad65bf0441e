import FrancaAudit.Diagnostic

/-!
The sink that all rules share. A rule works on the findings made so far and can do with them what
it likes; that it only adds its own is something to prove.
-/

namespace FrancaAudit.Check

abbrev Reporting := StateM (List Diagnostic)

def report (finding : Diagnostic) : Reporting Unit := modify fun found => found ++ [finding]

def reportWhen (broken : Bool) (finding : Diagnostic) : Reporting Unit :=
  if broken then report finding else pure ()

def Reporting.findings (check : Reporting Unit) : List Diagnostic := (check.run []).2

end FrancaAudit.Check
