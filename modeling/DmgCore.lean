import DmgCore.Bus.Recorded
import DmgCore.Bus.WriteProtected
import DmgCore.Cpu.Step
import DmgCore.Files.Tree
import DmgCore.Main
import DmgCore.Proofs.Bus.WordAccess
import DmgCore.Proofs.Cpu.CycleAccount
import DmgCore.Proofs.Cpu.FailedSteps
import DmgCore.Proofs.Cpu.HandlerCalls
import DmgCore.Proofs.Cpu.InterruptBurst
import DmgCore.Proofs.Cpu.LookUps
import DmgCore.Proofs.Cpu.MaskedRuns
import DmgCore.Proofs.Cpu.PrefixChain
import DmgCore.Proofs.Cpu.RegisterWrites
import DmgCore.Proofs.Cpu.Registration
import DmgCore.Proofs.Cpu.RequestHistory
import DmgCore.Proofs.Cpu.SwitchHistory
import DmgCore.Proofs.Cpu.TraceLine
import DmgCore.Proofs.Cpu.WordStack
import DmgCore.Proofs.Cpu.WordTransfer
import DmgCore.Proofs.Dump.Invocations
import DmgCore.Proofs.Dump.Jobs
import DmgCore.Proofs.Dump.Pictures
import DmgCore.Proofs.Files.LawfulStore
import DmgCore.Proofs.MemoryImage
import DmgCore.Proofs.MemoryLoad
import DmgCore.Proofs.Screen.ExactReads
import DmgCore.Proofs.Screen.FrameRows
import DmgCore.Proofs.Screen.Rgb24Bytes
import DmgCore.Proofs.Screen.RowStore
import DmgCore.Proofs.Video.AtlasPicture
import DmgCore.Proofs.Video.BackgroundPicture
import DmgCore.Proofs.Video.DrawnFrame
import DmgCore.Proofs.Video.FrameHistory
import DmgCore.Proofs.Video.LosslessAtlas
import DmgCore.Proofs.Video.OpaquePictures
import DmgCore.Proofs.Video.PixelDecode
import DmgCore.Proofs.Video.RenderFootprint
import DmgCore.Proofs.Video.ScanlinePixels
import DmgCore.Proofs.Video.TilePainting
import DmgCore.Screen.RowTrace
