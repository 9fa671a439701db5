import PromptGateway.Registry

/-! # Saved registries

The text in which a registry is left between two runs of the program: the counter and the rows as
JSON.
-/

namespace PromptGateway

namespace Row

def shape : Json.Shape :=
  .record "Row" true <|
    .cons "id" .required (.number .int64) <| .cons "platform_type" .required .text <|
    .cons "url" .required .text <| .cons "access_key" .required .text <|
    .cons "display_name" .required .text <| .cons "description" .required .text <|
    .cons "model" .required .text <| .cons "created_ts" .required (.number .int64) <|
    .cons "updated_ts" .required (.number .int64) .nil

def toCarrier (r : Row) : shape.Carrier :=
  (Int64.ofInt r.id, r.kindTag, r.url, r.accessKey, r.displayName, r.description, r.model,
    Int64.ofInt r.createdTs, Int64.ofInt r.updatedTs, ())

def ofCarrier : shape.Carrier → Row
  | (id, kindTag, url, accessKey, displayName, description, model, createdTs, updatedTs, ()) =>
    { id := Int64.toInt id, kindTag, url, accessKey, displayName, description, model
      createdTs := Int64.toInt createdTs, updatedTs := Int64.toInt updatedTs }

end Row

namespace Registry

def shape : Json.Shape :=
  .record "Registry" true <|
    .cons "last_id" .required (.number .int64) <| .cons "rows" .required (.list Row.shape) .nil

def text (g : Registry) : String :=
  shape.write (Int64.ofInt g.lastId, g.rows.map Row.toCarrier, ())

def read (text : String) : Except Json.Failure Registry :=
  (shape.readAll (.ofString text)).map fun (lastId, rows, ()) =>
    { lastId := Int64.toInt lastId, rows := rows.map Row.ofCarrier }

end Registry

end PromptGateway
