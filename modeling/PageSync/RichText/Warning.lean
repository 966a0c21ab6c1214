import PageSync.Json.Literal

/-!
# RichText/Warning — what a conversion loses
-/

namespace PageSync

/-- A loss that a conversion reports. -/
inductive Warning where
  /-- An inline node without a form in rich text was left out. -/
  | inlineDropped (type : String)
  /-- An inline node stood where only blocks can stand. -/
  | rootInlineSkipped (type : String)
  /-- Nodes after the first paragraph of a list item were left out. -/
  | listItemTruncated (types : List String)
  /-- A block without a counterpart was replaced by a blank paragraph. -/
  | unsupportedBlock (type : String)
  deriving DecidableEq, Repr

namespace Warning

/-- The code of a warning. -/
def code : Warning → String
  | .inlineDropped _ => "INLINE_DROPPED"
  | .rootInlineSkipped _ => "ROOT_INLINE_SKIPPED"
  | .listItemTruncated _ => "LIST_ITEM_TRUNCATED"
  | .unsupportedBlock _ => "UNSUPPORTED_BLOCK"

/-- The wording of a warning. -/
def message : Warning → String
  | .inlineDropped type =>
    "Inline node '" ++ type ++ "' has no rich-text form and was dropped."
  | .rootInlineSkipped type =>
    "Inline node '" ++ type ++ "' found at document root was skipped."
  | .listItemTruncated types =>
    "List item content after the first paragraph was dropped (" ++
      String.ofList (Json.intText types.length) ++ " node(s))."
  | .unsupportedBlock type =>
    "Block '" ++ type ++ "' has no Notion equivalent; " ++
      "a blank paragraph was emitted in its place."

/-- The data of a warning. -/
def context : Warning → Fields
  | .inlineDropped type => [("type", .str type)]
  | .rootInlineSkipped type => [("type", .str type)]
  | .listItemTruncated types => [("dropped", .arr (types.map .str))]
  | .unsupportedBlock type => [("type", .str type)]

/-- The form in which a warning is handed out. -/
def toJson (w : Warning) : Json :=
  .obj [("code", .str w.code), ("message", .str w.message), ("context", .obj w.context)]

end Warning

end PageSync
