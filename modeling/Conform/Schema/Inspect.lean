import Conform.Rule

/-!
# Rules and schemas as quoted values

The text in which messages show rules and schemas: names with their contents in parentheses, fields
of records in braces.

This is the derived `Debug` of `Rule` and `Schema`, and the one of `Callback`.
-/

namespace Conform

open Conform.Text

def Discipline.inspect : Discipline → String
  | .ordered => "Ordered"
  | .sorted => "Sorted"
  | .unique => "Unique"

def Callback.inspect : Callback → String
  | .value _ => "Callback::Value(..)"
  | .keyed _ => "Callback::KeyValue(..)"
  | .contextual _ => "Callback::WithContext(..)"

mutual

def Rule.inspect : Rule → String
  | .type tag => "Type(" ++ tag.inspect ++ ")"
  | .list d inner => "List(" ++ d.inspect ++ ", " ++ inner.inspect ++ ")"
  | .oneOf alternatives => "OneOf(" ++ bracketed (Rule.inspectAll alternatives) ++ ")"
  | .nested s => "Nested(" ++ s.inspect ++ ")"
  | .callback c => "Callback(" ++ c.inspect ++ ")"
  | .ignore => "Ignore"

def Schema.inspect : Schema → String
  | ⟨fields, defaults, mandatory⟩ =>
    "Schema \x7b fields: " ++ bracketed (Rule.inspectFields fields)
      ++ ", defaults: " ++ bracketed (Term.inspectPairs defaults)
      ++ ", mandatory: "
      ++ (match mandatory with
          | none => "None"
          | some keys => "Some(" ++ bracketed (keys.map Key.inspect) ++ ")")
      ++ " \x7d"

def Rule.inspectAll : List Rule → List String
  | [] => []
  | r :: rs => r.inspect :: Rule.inspectAll rs

def Rule.inspectFields : List (Key × Rule) → List String
  | [] => []
  | (k, r) :: fs => ("(" ++ k.inspect ++ ", " ++ r.inspect ++ ")") :: Rule.inspectFields fs

end

end Conform
