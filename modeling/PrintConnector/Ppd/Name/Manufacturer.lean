import PrintConnector.Text.Blank
import PrintConnector.Text.Fold

namespace PrintConnector.Ppd

open PrintConnector.Text

/-- Names as descriptions write them, and how they are shown. -/
def shownNames : List (String × String) := [
  ("HEWLETT-PACKARD", "HP"),
  ("HEWLETT PACKARD", "HP"),
  ("KONICA MINOLTA", "Konica Minolta"),
  ("KONICAMINOLTA", "Konica Minolta"),
  ("RICOH", "Ricoh"),
  ("EPSON", "Epson"),
  ("CANON", "Canon"),
  ("BROTHER", "Brother"),
  ("KYOCERA", "Kyocera"),
  ("KYOCERA MITA", "Kyocera Mita"),
  ("LEXMARK", "Lexmark"),
  ("SAMSUNG", "Samsung"),
  ("XEROX", "Xerox"),
  ("SHARP", "Sharp"),
  ("TOSHIBA", "Toshiba"),
  ("OKI", "OKI"),
  ("OKI DATA CORP", "OKI"),
  ("DELL", "Dell"),
  ("GESTETNER", "Gestetner"),
  ("INFOTEC", "Infotec"),
  ("LANIER", "Lanier"),
  ("NRG", "NRG"),
  ("SAVIN", "Savin")]

/-- A manufacturer as it is shown: a listed name, whatever its case and the
blanks around it, by its entry; any other name as it is. -/
def shownManufacturer (manufacturer : String) : String :=
  match shownNames.find? fun entry => sameFolded entry.1 (trimmed manufacturer) with
  | some (_, shown) => shown
  | none => manufacturer

end PrintConnector.Ppd
