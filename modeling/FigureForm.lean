import FigureForm.Main
import FigureForm.Proofs.AreaHeight
import FigureForm.Proofs.DumpNavigation
import FigureForm.Proofs.FormMarkup
import FigureForm.Proofs.Places
import FigureForm.Proofs.Remarks
import FigureForm.Proofs.WidgetShape
import FigureForm.Proofs.WindowAccount
import FigureForm.Proofs.WindowOverflow
import FigureForm.Proofs.Markup.Descendants
import FigureForm.Proofs.WidgetCount
import FigureForm.Proofs.ToolBarIcons
import FigureForm.Proofs.IconPixels
import FigureForm.Proofs.ReducedFigure
import FigureForm.Proofs.Alike
import FigureForm.Proofs.FormInputs
import FigureForm.Proofs.Locations
import FigureForm.Proofs.FileChanges
import FigureForm.Proofs.AssetPaths
import FigureForm.Proofs.ConversionFiles
import FigureForm.Proofs.SharedMeasurer
import FigureForm.Proofs.Containment
import FigureForm.Proofs.FigureCharacters
import FigureForm.Proofs.DumpDefects
import FigureForm.Proofs.KnownUnits
import FigureForm.Proofs.VectorLayouts
import FigureForm.Proofs.IconAccount
import FigureForm.Proofs.AssetNames
import FigureForm.Proofs.MenuEntries
import FigureForm.Proofs.PathComponents
import FigureForm.Proofs.OutputPaths
import FigureForm.Proofs.FailingInputs
import FigureForm.Proofs.OutlineText
import FigureForm.Proofs.FormOutline
import FigureForm.Proofs.MatrixStorage
