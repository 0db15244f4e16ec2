import Vulkanite.Lib.MaximalRuns
import Vulkanite.RangeAllocatorRuns
import Vulkanite.MultiHit
import Vulkanite.SingleTrace
import Vulkanite.PrimeRecords
import Vulkanite.HitDispatch
import Vulkanite.Launch
import Vulkanite.Contexts
import Vulkanite.AccelBalance
import Vulkanite.IDAllocators
import Vulkanite.ImageCreation
import Vulkanite.ComputeLaunches
import Vulkanite.DescriptorPools
import Vulkanite.ShaderCode
import Vulkanite.DriverInstance
import Vulkanite.Teardown
import Vulkanite.ModulePrograms
import Vulkanite.UserGeomBuild
import Vulkanite.SBTAlignment
import Vulkanite.MemoryTypes
import Vulkanite.ModelInstances
import Vulkanite.PrintSanitize
import Vulkanite.RoundUp
import Vulkanite.PipelineBuilds
import Vulkanite.LibraryBuilds
import Vulkanite.TraceLaunch
import Vulkanite.PrimeQueries
import Vulkanite.VulkanHandles
import Vulkanite.ImageUpload
import Vulkanite.ContextLifetimes
import Vulkanite.LogEntries
import Vulkanite.Submissions
import Vulkanite.FrameBuffers
import Vulkanite.TextureLookups
import Vulkanite.EmbeddedCode
import Vulkanite.MeshTriangles
