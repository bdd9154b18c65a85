import Dashboard.Plugin.Registry

/-!
# The built-in catalog

The dashboards that are always compiled in, in registration order: `scalars` is the default whenever
it is available. The projector is hidden in notebooks, custom scalars are experimental, and the
debugger waits for its flag.
-/

namespace Dashboard

/-- A built-in dashboard that is a custom element. -/
def Descriptor.component (id displayName elementName : String) : Descriptor :=
  { id := ⟨id⟩, displayName := displayName, mount := .element elementName }

def catalog : List Descriptor :=
  [.component "scalars" "Scalars" "tf-scalar-dashboard",
   .component "images" "Images" "tf-image-dashboard",
   .component "audio" "Audio" "tf-audio-dashboard",
   .component "graphs" "Graphs" "tf-graph-dashboard",
   .component "histograms" "Histograms" "tf-histogram-dashboard",
   .component "text" "Text" "tf-text-dashboard",
   { id := ⟨"projector"⟩, displayName := "Projector",
     mount := .iframe "/data/plugin/projector/index.js"
     predicate := .not (.flag "in_colab") },
   { id := ⟨"hparams"⟩, displayName := "HParams",
     mount := .bundle "/data/plugin/hparams/bundle.js" },
   { Descriptor.component "custom_scalars" "Custom Scalars" "tf-custom-scalar-dashboard" with
     predicate := .experimental ⟨"custom_scalars"⟩ },
   { Descriptor.component "debugger-v2" "Debugger V2" "tf-debugger-v2" with
     predicate := .flag "enable_debugger" }]

namespace Registry

/-- Registers the catalog and says how many plugins it has, or which one was refused. -/
def registerCatalog (r : Registry) : Registry × Except PluginError Nat :=
  let (r', outcome) := r.registerAll catalog
  (r', outcome.map fun _ => catalog.length)

end Registry

end Dashboard
