import ShapeInference.Command.Invocation
import ShapeInference.Text.Quoted

/-! Invocations as indented text, for a look at how arguments were understood. -/

set_option autoImplicit false

namespace ShapeInference.Command

inductive Dump where
  | plain (text : String)
  | record (name : String) (fields : List (String × Dump))
  | wrapped (name : String) (value : Dump)
  | list (items : List Dump)

namespace Dump

def indent (level : Nat) : String := .ofList (List.replicate (4 * level) ' ')

mutual

/-- Each level is indented by four blanks, and a comma ends every line inside. -/
def text (level : Nat) : Dump → String
  | .plain text => text
  | .record name fields =>
    name ++ " \x7b\n" ++ fieldsText (level + 1) fields ++ indent level ++ "\x7d"
  | .wrapped name value =>
    name ++ "(\n" ++ indent (level + 1) ++ value.text (level + 1) ++ ",\n" ++ indent level ++ ")"
  | .list items => "[\n" ++ itemsText (level + 1) items ++ indent level ++ "]"

def fieldsText (level : Nat) : List (String × Dump) → String
  | [] => ""
  | (name, value) :: rest =>
    indent level ++ name ++ ": " ++ value.text level ++ ",\n" ++ fieldsText level rest

def itemsText (level : Nat) : List Dump → String
  | [] => ""
  | value :: rest => indent level ++ value.text level ++ ",\n" ++ itemsText level rest

end

def bool (value : Bool) : Dump := .plain (if value then "true" else "false")

def option (dump : String → Dump) : Option String → Dump
  | none => .plain "None"
  | some value => .wrapped "Some" (dump value)

def string (value : String) : Dump := .plain (Text.quoted value)

/-- Paths escape both kinds of quotation marks. -/
def path (value : String) : Dump := .plain (Text.quotedWith ['"', '\''] value)

end Dump

def InputOptions.dump (options : InputOptions) : Dump :=
  .record "InputSettings" [("ndjson", .bool options.stream),
    ("json_pointer", .option .string options.pointer), ("jq_expr", .option .string options.filter),
    ("input", .list (options.patterns.map .string))]

def InferenceOptions.dump (options : InferenceOptions) : Dump :=
  .record "InferSettings" [("root_type", .string options.rootType),
    ("singulars", .option .path options.singulars),
    ("upgrade_optionals", .bool options.throughOptionals)]

def Form.name : Form → String
  | .model => "Model"
  | .tree => "Tree"

def Invocation.dump (i : Invocation) : Dump :=
  .record "CommandLineInterface" [("verbose", .bool i.verbose),
    ("cmd", .wrapped i.form.name (.record (i.form.name ++ "Out")
      [("input_settings", i.input.dump), ("infer_settings", i.inference.dump),
        ("out", .option .path i.out), ("no_op", .bool i.noOp)]))]

end ShapeInference.Command
