import DepthBridge.Device.Service
import DepthBridge.Text.Blank

/-!
# The post-processing pipeline

An ordered list of stages, each a device block with its tag and an on/off switch. The pipeline
is built from the configured stage list, skipping stages for which the device has no block;
the point cloud stage also carries the texturing settings.

A frameset runs through the enabled stages in order, and the first refusal stops it. Switching
a stage acts on the first stage with that tag; a tag is enabled when any stage with it is.
-/

namespace DepthBridge

/-- One stage: a tagged, switchable block; `cloud` holds the texturing of a point cloud
stage. -/
structure Stage where
  tag : StageTag
  enabled : Bool
  block : Block
  cloud : Option PointCloudConfig := none
  deriving Inhabited

/-- The stages in order. -/
structure Pipeline where
  stages : List Stage := []
  deriving Inhabited

namespace Pipeline

/-- The pipeline of the configured stages that the device has a block for. -/
def ofConfig (filters : List FilterConfig) (device : Device) (pc : PointCloudConfig) : Pipeline :=
  ⟨filters.filterMap fun f => (device.block f.name).map fun b =>
    { tag := f.name, enabled := f.enabled, block := b
      cloud := if f.name == .pointcloud then some pc else none }⟩

/-- Switches the first stage with a tag; whether there was one. -/
def setEnabled (p : Pipeline) (tag : StageTag) (on : Bool) : Bool × Pipeline :=
  match p.stages.findIdx? (·.tag == tag) with
  | some i => (true, ⟨p.stages.modify i fun s => { s with enabled := on }⟩)
  | none => (false, p)

/-- Whether a stage with the tag is enabled. -/
def isEnabled (p : Pipeline) (tag : StageTag) : Bool := p.stages.any fun s => s.tag == tag && s.enabled

/-- The texturing of the first point cloud stage, enabled or not. -/
def pointCloud? (p : Pipeline) : Option PointCloudConfig := p.stages.findSome? (·.cloud)

/-- Runs the enabled stages in order. -/
def process (p : Pipeline) (s : Frameset) : Checked Frameset :=
  (p.stages.filter (·.enabled)).foldlM (fun acc stage => stage.block.process acc) s

/-- A flag as diagnostic text. -/
def flagText (b : Bool) : String := if b then "true" else "false"

/-- A stage's block, tag and switch as diagnostic text. -/
def namedText (s : Stage) : String :=
  "NamedFilter \x7b tag: " ++ s.tag.label ++ ", enabled: " ++ flagText s.enabled ++ ", block: "
    ++ Text.quoted s.block.name ++ " \x7d"

/-- Texturing settings as diagnostic text. -/
def cloudText (c : PointCloudConfig) : String :=
  "PointCloudConfig \x7b texture_stream: " ++ c.textureStream.label ++ ", texture_index: "
    ++ toString c.textureIndex.toNat ++ ", allow_no_texture_points: " ++ flagText c.allowNoTexturePoints ++ " \x7d"

/-- A stage as diagnostic text. -/
def stageText (s : Stage) : String :=
  match s.cloud with
  | some c => "PointCloud(PointCloudFilter \x7b named: " ++ namedText s ++ ", config: " ++ cloudText c ++ " \x7d)"
  | none => "Processing(" ++ namedText s ++ ")"

/-- The pipeline as diagnostic text. -/
def debugText (p : Pipeline) : String :=
  "FilterPipeline \x7b stages: [" ++ ", ".intercalate (p.stages.map stageText) ++ "] \x7d"

end Pipeline
end DepthBridge
