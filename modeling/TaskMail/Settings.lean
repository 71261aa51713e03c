import TaskMail.Invocation

/-!
# TaskMail.Settings

The settings of the plugin, from environment variables.

* `Settings`      — sender, mail program and variant.
* `Settings.read` — the settings that a look-up of variables gives; it never fails.
* `Settings.unknownVariant?` — the name of a variant that does not exist.
-/

namespace TaskMail

structure Settings where
  sender : Option String
  mailProgram : String
  variant : Variant
  deriving Repr, DecidableEq

namespace Settings

def senderVariable : String := "EVQ_NOTIFY_FROM"

def mailProgramVariable : String := "EVQ_NOTIFY_MAIL_BIN"

def variantVariable : String := "EVQ_NOTIFY_VARIANT"

def defaultMailProgram : String := "/usr/bin/mail"

/-- A blank variable counts as unset. -/
def value? (lookup : String → Option String) (name : String) : Option String :=
  (lookup name).filter fun v => !Text.allBlank v

/-- The name of the variant, without the blanks around it. -/
def variantName? (lookup : String → Option String) : Option String :=
  (value? lookup variantVariable).map Text.trim

def unknownVariant? (lookup : String → Option String) : Option String :=
  (variantName? lookup).filter fun name => (Variant.ofName? name).isNone

/-- An unknown variant is read as the extended one. -/
def read (lookup : String → Option String) : Settings where
  sender := value? lookup senderVariable
  mailProgram := (value? lookup mailProgramVariable).getD defaultMailProgram
  variant := ((variantName? lookup).bind Variant.ofName?).getD .extended

def variantText : Variant → String
  | .basic => "Basic"
  | .extended => "Extended"

def senderText : Option String → String
  | some s => "Some(" ++ Text.quote s ++ ")"
  | none => "None"

/-- The settings as the log shows them. -/
def text (s : Settings) : String :=
  "PluginConfig \x7b from: " ++ senderText s.sender ++ ", mail_bin: " ++
    Text.quote s.mailProgram ++ ", variant: " ++ variantText s.variant ++ " \x7d"

end Settings

end TaskMail
