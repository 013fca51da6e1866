import CondVar.Limits
import CondVar.Text.Quoted
import CondVar.Text.Record

/-
  The settings of a condition variable: the label on its log
  events, and how long an unbounded wait may last before it
  is reported.

  Key definitions include:
    * `Settings`
    * `Settings.standard`
    * `Settings.diagnostic`
    * `Settings.stallPeriod?`
-/

namespace CondVar

------------------------------------------------------------
-- Settings
------------------------------------------------------------

/- A label, and a stall period if stalls are reported. -/
structure Settings where
  label : String
  stall : Option Duration
deriving DecidableEq

namespace Settings

/- The default label, and no report of stalls. -/
def standard : Settings :=
  ⟨Limits.defaultLabel, none⟩

/- The default label, and stalls reported. -/
def diagnostic : Settings :=
  ⟨Limits.defaultLabel, some Limits.stallPeriod⟩

/- The same settings under another label. -/
def withLabel
    (s : Settings)
    (label : String) : Settings :=
  { s with label := label }

/- The same settings with another stall period. -/
def withStall
    (s : Settings)
    (period : Duration) : Settings :=
  { s with stall := some period }

/- The stall period in force: a period of zero is none. -/
def stallPeriod? (s : Settings) : Option Duration :=
  s.stall.filter (fun d => ¬ d.IsZero)

/- The written form of settings. -/
def text (s : Settings) : String :=
  Text.record "CondConfig"
    [("label", Text.quoted s.label),
      ("stall_warning",
        Text.optional (s.stall.map Duration.text))]

end Settings

end CondVar
