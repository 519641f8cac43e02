/-!
# Failure reasons

A run fails for one of the reasons in the catalog. Unless another catalog is set, the built-in one
is used.
-/

namespace PrintFarm

/-- A reason for which a run can fail. -/
structure FailureReason where
  value : String
  label : String
  description : String
  deriving DecidableEq, Repr

/-- The failure reasons in their order. -/
structure Catalog where
  reasons : List FailureReason
  deriving DecidableEq, Repr

/-- Why a list of reasons is no catalog. -/
inductive CatalogFault
  | empty
  | duplicate (value : String)
  deriving DecidableEq, Repr

namespace Catalog

/-- The first value that comes a second time. -/
def repeated? : List String → List FailureReason → Option String
  | _, [] => none
  | seen, r :: rest => if r.value ∈ seen then some r.value else repeated? (r.value :: seen) rest

/-- A catalog has at least one reason and no value twice. -/
def ofReasons (reasons : List FailureReason) : Except CatalogFault Catalog :=
  if reasons.isEmpty then .error .empty
  else
    match repeated? [] reasons with
    | some value => .error (.duplicate value)
    | none => .ok ⟨reasons⟩

/-- The reason with that value. -/
def find? (c : Catalog) (value : String) : Option FailureReason :=
  c.reasons.find? fun r => r.value = value

def contains (c : Catalog) (value : String) : Bool :=
  (c.find? value).isSome

/-- The catalog that is used unless another one is set. -/
def builtin : Catalog := ⟨[
  ⟨"spaghetti", "Spaghetti", "Print detached mid-job and extruded loose strands"⟩,
  ⟨"layer_shift", "Layer shift", "Layers misaligned after a belt slip or collision"⟩,
  ⟨"bed_adhesion", "Bed adhesion",
    "First layers failed to stick or the part lifted off the bed"⟩,
  ⟨"nozzle_clog", "Nozzle clog", "Extrusion stopped because the nozzle was blocked"⟩,
  ⟨"filament_runout", "Filament runout", "Spool ran empty before the job finished"⟩,
  ⟨"filament_tangle", "Filament tangle", "Filament knotted on the spool and stalled feeding"⟩,
  ⟨"warping", "Warping", "Corners or edges curled beyond tolerance"⟩,
  ⟨"under_extrusion", "Under-extrusion", "Weak or missing walls from insufficient flow"⟩,
  ⟨"power_loss", "Power loss", "Printer lost power during the job"⟩,
  ⟨"printer_error", "Printer error", "Firmware or hardware fault aborted the job"⟩,
  ⟨"operator_error", "Operator error",
    "Wrong file, material or settings chosen by the operator"⟩,
  ⟨"other", "Other", "Any failure not covered above; describe it in the notes"⟩]⟩

end Catalog

end PrintFarm
