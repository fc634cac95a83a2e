import GeoHazard.Library.Dict
import Mathlib.Data.List.Dedup
import Mathlib.Data.List.Sort
import Mathlib.Data.String.Basic

namespace GeoHazard

structure SourceAttribution where
  source : String
  text : String
  url : String

def ATTRIBUTIONS : List (String × SourceAttribution) :=
  [("aemet", ⟨"aemet", "Fuente: AEMET", "https://www.aemet.es/es/nota_legal"⟩),
    ("effis", ⟨"effis",
      "Contains modified Copernicus Emergency Management Service information " ++
        "(EFFIS). (c) European Union, CC BY 4.0",
      "https://forest-fire.emergency.copernicus.eu/about-effis/data-license"⟩),
    ("ign", ⟨"ign", "Obra derivada del catalogo de terremotos del IGN, CC-BY 4.0 ign.es",
      "https://www.ign.es/resources/licencia/Condiciones_licenciaUso_IGN.pdf"⟩),
    ("cnig", ⟨"cnig", "Obra derivada de las lineas limite del CNIG, CC-BY 4.0 ign.es",
      "https://www.ign.es/resources/licencia/Condiciones_licenciaUso_IGN.pdf"⟩)]

def attributions_for (sources : List String) : List SourceAttribution :=
  (sources.dedup.insertionSort (· ≤ ·)).filterMap (fun s => Dict.get s ATTRIBUTIONS)

end GeoHazard
