import PrintFarm.Json.Decoder
import PrintFarm.Material.Measurement
import PrintFarm.Plate.Basic
import PrintFarm.Run.Request
import PrintFarm.Spool

/-!
# Requests as JSON

Each kind of request body has its fields in declaration order, with the names under which people
write them. All but the registration of a spool allow no other fields.
-/

namespace PrintFarm.Api

open Json Fields

/-- The words for cancel modes. -/
def cancelMode : Decoder CancelMode := Decoder.choice CancelMode.ofWord?

def newSpool : Decoder (NewSpool Float) := openRecord <|
  NewSpool.mk <$> required "label" Decoder.text
    <*> required "material_type" Decoder.text
    <*> optional "color" Decoder.text
    <*> required "current_weight_grams" Decoder.real
    <*> required "cost_per_gram" Decoder.real

def newItem : Decoder (NewItem Float) := record <|
  NewItem.mk <$> required "model_id" Decoder.uuid
    <*> optional "model_name" Decoder.text
    <*> required "quantity" Decoder.int32
    <*> optional "bed_position" Decoder.text
    <*> optional "model_weight_grams" Decoder.real
    <*> optional "estimated_cost_per_unit" Decoder.real

def newMaterial : Decoder (NewMaterial Float) := record <|
  NewMaterial.mk <$> required "spool_id" Decoder.uuid
    <*> defaulted "estimated_model_weight_grams" 0.0 Decoder.real
    <*> optional "estimated_flushed_grams" Decoder.real
    <*> optional "estimated_tower_grams" Decoder.real

/-- The fields that are about a new run alone. -/
def newRunFields : Fields (NewRun Float) :=
  NewRun.mk <$> optional "started_at" Decoder.timestamp
    <*> defaulted "estimated_print_time_hours" 0.0 Decoder.real
    <*> optional "printer_name" Decoder.text
    <*> optional "slicer_software" Decoder.text
    <*> optional "bed_temperature" Decoder.int32
    <*> optional "nozzle_temperature" Decoder.int32
    <*> optional "notes" Decoder.text

def runRequest : Decoder (RunRequest Float) := record <|
  RunRequest.mk <$> newRunFields
    <*> defaulted "items" [] (Decoder.list newItem)
    <*> defaulted "materials" [] (Decoder.list newMaterial)

def runPatch : Decoder (RunPatch Float) := record <|
  RunPatch.mk <$> optional "duration_hours" Decoder.real
    <*> optional "started_at" Decoder.timestamp
    <*> optional "estimated_print_time_hours" Decoder.real
    <*> optional "printer_name" Decoder.text
    <*> optional "slicer_software" Decoder.text
    <*> optional "bed_temperature" Decoder.int32
    <*> optional "nozzle_temperature" Decoder.int32
    <*> optional "notes" Decoder.text

def outcome : Decoder Outcome := record <|
  Outcome.mk <$> required "successful_quantity" Decoder.int32
    <*> required "failed_quantity" Decoder.int32

def measurement : Decoder (MeasurementRequest Float) := record <|
  MeasurementRequest.mk <$> optional "actual_model_weight_grams" Decoder.real
    <*> optional "spool_weight_before_grams" Decoder.real
    <*> optional "spool_weight_after_grams" Decoder.real

def spoolUsage : Decoder (SpoolUsage Float) := record <|
  SpoolUsage.mk <$> required "spool_id" Decoder.uuid
    <*> required "grams" Decoder.real

def cancelRequest : Decoder (CancelRequest Float) := record <|
  CancelRequest.mk <$> required "cancel_mode" cancelMode
    <*> defaulted "partial_usage" [] (Decoder.list spoolUsage)
    <*> optional "notes" Decoder.text

def failRequest : Decoder (FailRequest Float) := record <|
  FailRequest.mk <$> required "failure_reason" Decoder.text
    <*> defaulted "waste_materials" [] (Decoder.list spoolUsage)
    <*> optional "notes" Decoder.text

def newPlate : Decoder (NewPlate Float) := record <|
  NewPlate.mk <$> required "model_id" Decoder.uuid
    <*> optional "printer_id" Decoder.uuid
    <*> optional "plate_number" Decoder.int32
    <*> optional "plate_name" Decoder.text
    <*> defaulted "prints_per_plate" 1 Decoder.int32
    <*> optional "print_time_minutes" Decoder.int32
    <*> optional "estimated_material_weight_grams" Decoder.real
    <*> optional "notes" Decoder.text

def platePatch : Decoder (PlatePatch Float) := record <|
  PlatePatch.mk <$> optional "plate_name" Decoder.text
    <*> optional "printer_id" Decoder.uuid
    <*> optional "print_time_minutes" Decoder.int32
    <*> optional "estimated_material_weight_grams" Decoder.real
    <*> optional "notes" Decoder.text

def plateReport : Decoder (PlateReport Float) := record <|
  PlateReport.mk <$> required "successful_prints" Decoder.int32
    <*> defaulted "failed_prints" 0 Decoder.int32
    <*> optional "actual_print_time_minutes" Decoder.int32
    <*> optional "actual_material_weight_grams" Decoder.real
    <*> optional "notes" Decoder.text

/-- Notes alone, as the end of a plate takes them. -/
def plateNotes : Decoder (Option String) := record <|
  optional "notes" Decoder.text

end PrintFarm.Api
