import ConversionSynthesis.Json.Reader
import ConversionSynthesis.Manifest.Schema

/-! # Manifests as JSON

The fields of every kind of entry, in the order in which an array gives them.
-/

namespace ConversionSynthesis

open Json

namespace ParameterEntry

def reader : Reader ParameterEntry :=
  .record "struct RawParameter"
    [.of "name" .string (fun name entry => { entry with name }) true,
      .of "type" .string (fun type entry => { entry with type }) true]
    {}

end ParameterEntry

namespace ConstructorEntry

def reader : Reader ConstructorEntry :=
  .record "struct RawConstructor"
    [.of "accessibility" .string fun accessibility entry => { entry with accessibility },
      .of "opt_out" .boolean fun optOut entry => { entry with optOut },
      .of "obsolete" .boolean fun isObsolete entry => { entry with isObsolete },
      .of "parameters" (.list ParameterEntry.reader) fun parameters entry =>
        { entry with parameters }]
    {}

end ConstructorEntry

namespace ConversionEntry

def reader : Reader ConversionEntry :=
  .record "struct RawConversion"
    [.of "kind" .string fun kind entry => { entry with kind },
      .of "parameters" (.list .string) (fun parameters entry => { entry with parameters }) true]
    {}

end ConversionEntry

namespace EnclosingEntry

def reader : Reader EnclosingEntry :=
  .record "struct RawContainingType"
    [.of "name" .string (fun name entry => { entry with name }) true,
      .of "kind" .string fun kind entry => { entry with kind },
      .of "accessibility" .string fun accessibility entry => { entry with accessibility },
      .of "partial" .boolean fun isPartial entry => { entry with isPartial },
      .of "type_parameters" (.list .string) fun typeParameters entry =>
        { entry with typeParameters }]
    {}

end EnclosingEntry

namespace TypeEntry

def reader : Reader TypeEntry :=
  .record "struct RawType"
    [.of "name" .string (fun name entry => { entry with name }) true,
      .of "namespace" (.optional .string) fun namespacePath entry => { entry with namespacePath },
      .of "kind" .string fun kind entry => { entry with kind },
      .of "accessibility" .string fun accessibility entry => { entry with accessibility },
      .of "partial" .boolean fun isPartial entry => { entry with isPartial },
      .of "abstract" .boolean fun isAbstract entry => { entry with isAbstract },
      .of "static" .boolean fun isStatic entry => { entry with isStatic },
      .of "opt_out" .boolean fun optOut entry => { entry with optOut },
      .of "type_parameters" (.list .string) fun typeParameters entry =>
        { entry with typeParameters },
      .of "containing_types" (.list EnclosingEntry.reader) fun enclosing entry =>
        { entry with enclosing },
      .of "usings" (.list .string) fun usings entry => { entry with usings },
      .of "constructors" (.list ConstructorEntry.reader) fun constructors entry =>
        { entry with constructors },
      .of "conversions" (.list ConversionEntry.reader) fun conversions entry =>
        { entry with conversions }]
    {}

end TypeEntry

namespace Manifest

def capabilities : List (String × Capability) :=
  [("interface", .interface), ("open", .general), ("sealed", .concrete)]

def reader : Reader Manifest :=
  .record "struct RawManifest"
    [.of "has_tuple_feature" .boolean fun hasTuples manifest => { manifest with hasTuples },
      .of "symbols" (.map (.choice capabilities)) fun symbols manifest =>
        { manifest with symbols },
      .of "types" (.list TypeEntry.reader) fun types manifest => { manifest with types }]
    {}

def ofJson (text : String) : Except Failure Manifest :=
  reader.readText text

end Manifest

end ConversionSynthesis
